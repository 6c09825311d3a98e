import TreeReport.Proofs.NodeLines

/-!
The plain report of a canonical value determines it. Below a header the attribute
lines end where a connector stands in the first column, and the lines of one
attribute end where a letter stands there; what is left behind a lead, a margin
or a name is the report of a smaller value.
-/
namespace TreeReport.Report

open Value (Canonical PlainNode IsJson arranged withValues isOwn)

section Siblings

/-- The lines of the value determine it among canonical values. -/
def Decodes (positions : Bool) (value : Value) : Prop :=
  ∀ other, Canonical other →
    valueLines ⟨positions, false⟩ value = valueLines ⟨positions, false⟩ other →
      arranged value = arranged other

-- The lines of a sibling end where the next connector stands, and without their
-- lead they are its report.
theorem siblings_cut {positions : Bool} {total index : Nat} {items others : List Value}
    (decodes : ∀ item ∈ items, Decodes positions item)
    (canonical : ∀ other ∈ others, Canonical other)
    (same : siblingLines ⟨positions, false⟩ total index items =
      siblingLines ⟨positions, false⟩ total index others) :
    items.map arranged = others.map arranged := by
  induction items generalizing index others with
  | nil =>
      cases others with
      | nil => rfl
      | cons other rest =>
          obtain ⟨line, more, -, lines⟩ := siblingLines_cons positions total index other rest
          rw [lines] at same
          contradiction
  | cons item rest ih =>
      cases others with
      | nil =>
          obtain ⟨line, more, -, lines⟩ := siblingLines_cons positions total index item rest
          rw [lines] at same
          contradiction
      | cons other following =>
          obtain ⟨line, more, shape, lines⟩ := siblingLines_cons positions total index item rest
          obtain ⟨top, below, otherShape, otherLines⟩ :=
            siblingLines_cons positions total index other following
          have closed : ∀ lines : List Text,
              ∀ line ∈ lines.map (furtherLead total index ++ ·), opensSibling line = false := by
            intro lines line inside
            obtain ⟨tail, -, rfl⟩ := List.mem_map.mp inside
            exact furtherLead_closed total index tail
          rw [lines, otherLines] at same
          obtain ⟨blocks, tails⟩ := block_cut (closed more) (closed below)
            (siblingLines_open positions total (index + 1) rest)
            (siblingLines_open positions total (index + 1) following) same
          obtain ⟨heads, bodies⟩ := List.cons.inj blocks
          have first : line = top := List.append_cancel_left heads
          have further : more = below :=
            (List.map_inj_right fun _ _ equal => List.append_cancel_left equal).mp bodies
          have value := decodes item (by simp) other (canonical other (by simp))
            (by rw [shape, otherShape, first, further])
          have values := ih (fun item inside => decodes item (List.mem_cons_of_mem _ inside))
            (fun other inside => canonical other (List.mem_cons_of_mem _ inside)) tails
          rw [List.map_cons, List.map_cons, value, values]

end Siblings

section Entries

theorem look_compactText (value : Value) : look value.compactText = .compact :=
  look_compact (Value.normal_proper_any value)

theorem look_lines (positions : Bool) {value : Value} (canonical : Canonical value) :
    ∃ line more, valueLines ⟨positions, false⟩ value = line :: more ∧ look line = lookOf value := by
  cases canonical with
  | @list items all =>
      cases items with
      | nil => exact ⟨[], [], rfl, rfl⟩
      | cons item rest =>
          obtain ⟨line, more, -, lines⟩ :=
            siblingLines_cons positions (item :: rest).length 0 item rest
          refine ⟨_, _, lines, ?_⟩
          simp [look, firstLead_opens, lookOf]
  | @mapping form entries json untyped =>
      have compact : lookOf (.mapping form entries) = .compact := by
        simp [lookOf, Node.isNode, untyped]
      refine ⟨_, [], ?_, compact ▸ look_compactText (.mapping form entries)⟩
      simp [valueLines, untyped]
  | @node form entries typeText plain children shown =>
      have node : lookOf (.mapping form entries) = .node := by
        simp [lookOf, Node.isNode, plain.typed]
      exact ⟨_, _, node_lines plain form, node ▸ look_word plain.word plain.free content_stops⟩
  | null => exact ⟨_, [], rfl, look_compactText .null⟩
  | bool b => exact ⟨_, [], rfl, look_compactText (.bool b)⟩
  | int n => exact ⟨_, [], rfl, look_compactText (.int n)⟩
  | @float x finite => exact ⟨_, [], rfl, look_compactText (.float x)⟩
  | str text => exact ⟨_, [], rfl, look_compactText (.str text)⟩

theorem look_of_same {positions : Bool} {first second : Value} (one : Canonical first)
    (two : Canonical second)
    (same : valueLines ⟨positions, false⟩ first = valueLines ⟨positions, false⟩ second) :
    lookOf first = lookOf second := by
  obtain ⟨line, more, shape, looks⟩ := look_lines positions one
  obtain ⟨other, rest, otherShape, otherLooks⟩ := look_lines positions two
  rw [shape, otherShape] at same
  rw [← looks, ← otherLooks, (List.cons.inj same).1]

theorem compactText_cut {first second : Value} (one : IsJson first) (two : IsJson second)
    (same : first.compactText = second.compactText) : arranged first = arranged second := by
  have nothing : Json.Stops [] := by simp [Json.Stops]
  have ends : first.normal.compact ++ [] = second.normal.compact ++ [] := by
    rw [List.append_nil, List.append_nil]
    exact same
  exact Value.arranged_of_normal one two (Json.compact_cut (Value.normal_proper_any first) _
    (Value.normal_proper_any second) [] [] nothing nothing ends).1

theorem head_cut {first second left right : Text} {more others : List Text}
    (one : Text.IsWord first) (two : Text.IsWord second)
    (same : (first ++ (.char ':' :: left)) :: more = (second ++ (.char ':' :: right)) :: others) :
    first = second ∧ left = right ∧ more = others := by
  have stops : ∀ rest : Text, ∀ symbol ∈ (Symbol.char ':' :: rest).head?,
      Text.isAsciiLetter symbol = false := by
    intro rest symbol inside
    cases inside
    rfl
  obtain ⟨heads, tails⟩ := List.cons.inj same
  obtain ⟨names, rests⟩ := word_cut one two (stops left) (stops right) heads
  exact ⟨names, (List.cons.inj rests).2, tails⟩

/-- Behind a name stands a node, which compact text is never taken for. -/
theorem behind_node {positions : Bool} {value : Value} {line : Text} {more : List Text}
    (canonical : Canonical value) (node : lookOf value = .node)
    (lines : valueLines ⟨positions, false⟩ value = line :: more) (other : Value) :
    other.compactText ≠ line := by
  rintro rfl
  obtain ⟨top, rest, shape, looks⟩ := look_lines positions canonical
  rw [lines] at shape
  rw [← (List.cons.inj shape).1, look_compactText, node] at looks
  contradiction

theorem behind_cut {positions : Bool} {value other : Value} {kind otherKind : Expansion}
    {line : Text} {more : List Text} (one : Behind positions value kind line more)
    (two : Behind positions other otherKind line more) (held : IsJson value)
    (otherHeld : IsJson other) (node : kind = .node → lookOf value = .node)
    (otherNode : otherKind = .node → lookOf other = .node)
    (canonical : kind ≠ .text → Canonical value)
    (otherCanonical : otherKind ≠ .text → Canonical other)
    (decodes : kind ≠ .text → Decodes positions value) : arranged value = arranged other := by
  cases one with
  | node lines =>
      cases two with
      | node otherLines =>
          exact decodes (by decide) other (otherCanonical (by decide)) (lines.trans otherLines.symm)
      | text compact =>
          exact absurd compact (behind_node (canonical (by decide)) (node rfl) lines other)
  | listing lines =>
      cases two with
      | listing otherLines =>
          exact decodes (by decide) other (otherCanonical (by decide)) (lines.trans otherLines.symm)
  | text compact =>
      cases two with
      | node lines =>
          exact absurd compact
            (behind_node (otherCanonical (by decide)) (otherNode rfl) lines value)
      | text otherCompact =>
          exact compactText_cut held otherHeld (compact.trans otherCompact.symm)

theorem entry_cut {positions : Bool} {first second : Value × Value} (one : PlainEntry first)
    (two : PlainEntry second)
    (decodes : expansion first.1.plain first.2 ≠ .text → Decodes positions first.2)
    (same : entryLines ⟨positions, false⟩ first.1.plain first.2 =
      entryLines ⟨positions, false⟩ second.1.plain second.2) :
    first.1 = second.1 ∧ arranged first.2 = arranged second.2 := by
  obtain ⟨⟨name, key, named⟩, held, shown⟩ := one
  obtain ⟨⟨other, otherKey, otherNamed⟩, otherHeld, otherShown⟩ := two
  have spelled : first.1.plain = name := by rw [key]; rfl
  have otherSpelled : second.1.plain = other := by rw [otherKey]; rfl
  rw [spelled] at decodes shown same
  rw [otherSpelled] at otherShown same
  obtain ⟨line, more, lines, behind⟩ := entryLines_behind positions named first.2
  obtain ⟨top, below, otherLines, otherBehind⟩ := entryLines_behind positions otherNamed second.2
  rw [lines, otherLines] at same
  obtain ⟨names, rfl, rfl⟩ := head_cut named otherNamed same
  refine ⟨by rw [key, otherKey, names], ?_⟩
  exact behind_cut behind otherBehind held otherHeld expansion_node expansion_node shown otherShown
    decodes

theorem entriesLines_cons (positions : Bool) {entry : Value × Value} {rest : Entries}
    (plain : PlainEntry entry) :
    ∃ line more, entryLines ⟨positions, false⟩ entry.1.plain entry.2 = line :: more ∧
      entriesLines ⟨positions, false⟩ (entry :: rest) =
        line :: (more ++ entriesLines ⟨positions, false⟩ rest) ∧
      opensAttribute line = true ∧ ∀ other ∈ more, opensAttribute other = false := by
  obtain ⟨line, more, lines, opens, inside⟩ := entryLines_shape positions plain
  refine ⟨line, more, lines, ?_, opens, inside⟩
  rw [entriesLines, List.flatMap_cons, lines]
  rfl

theorem entriesLines_open (positions : Bool) {entries : Entries}
    (plain : ∀ entry ∈ entries, PlainEntry entry) :
    ∀ line ∈ (entriesLines ⟨positions, false⟩ entries).head?, opensAttribute line = true := by
  intro line inside
  cases entries with
  | nil => contradiction
  | cons entry rest =>
      obtain ⟨top, more, -, lines, opens, -⟩ := entriesLines_cons positions (plain entry (by simp))
      rw [lines] at inside
      cases inside
      exact opens

-- By induction on the first attributes: the lines of one end where the next opens.
theorem entries_cut {positions : Bool} {first second : Entries}
    (one : ∀ entry ∈ first, PlainEntry entry) (two : ∀ entry ∈ second, PlainEntry entry)
    (decodes : ∀ entry ∈ first, expansion entry.1.plain entry.2 ≠ .text →
      Decodes positions entry.2)
    (same : entriesLines ⟨positions, false⟩ first = entriesLines ⟨positions, false⟩ second) :
    withValues arranged first = withValues arranged second := by
  induction first generalizing second with
  | nil =>
      cases second with
      | nil => rfl
      | cons entry rest =>
          obtain ⟨top, more, -, lines, -⟩ := entriesLines_cons positions (two entry (by simp))
          rw [lines] at same
          contradiction
  | cons entry rest ih =>
      cases second with
      | nil =>
          obtain ⟨top, more, -, lines, -⟩ := entriesLines_cons positions (one entry (by simp))
          rw [lines] at same
          contradiction
      | cons other following =>
          obtain ⟨top, more, shape, lines, -, inside⟩ :=
            entriesLines_cons positions (one entry (by simp))
          obtain ⟨head, below, otherShape, otherLines, -, otherInside⟩ :=
            entriesLines_cons positions (two other (by simp))
          rw [lines, otherLines] at same
          have later := fun item member => one item (List.mem_cons_of_mem _ member)
          have behind := fun item member => two item (List.mem_cons_of_mem _ member)
          obtain ⟨blocks, tails⟩ := block_cut inside otherInside
            (entriesLines_open positions later) (entriesLines_open positions behind) same
          rw [← shape, ← otherShape] at blocks
          obtain ⟨keys, values⟩ := entry_cut (one entry (by simp)) (two other (by simp))
            (decodes entry (by simp)) blocks
          have others := ih later behind
            (fun item member => decodes item (List.mem_cons_of_mem _ member)) tails
          simp only [withValues, List.map_cons] at others ⊢
          rw [keys, values, others]

end Entries

section Values

theorem canonical_list {value : Value} (canonical : Canonical value)
    (looks : lookOf value = .blank ∨ lookOf value = .listing) :
    ∃ items, value = .sequence .list items ∧ ∀ item ∈ items, Canonical item := by
  cases canonical with
  | @list items all => exact ⟨items, rfl, all⟩
  | mapping json untyped => simp [lookOf, Node.isNode, untyped] at looks
  | node plain children shown => simp [lookOf, Node.isNode, plain.typed] at looks
  | _ => rcases looks with blank | listing <;> contradiction

theorem canonical_compact (positions : Bool) {value : Value} (canonical : Canonical value)
    (compact : lookOf value = .compact) :
    IsJson value ∧ valueLines ⟨positions, false⟩ value = [value.compactText] := by
  cases canonical with
  | null => exact ⟨.null, rfl⟩
  | bool b => exact ⟨.bool b, rfl⟩
  | int n => exact ⟨.int n, rfl⟩
  | float finite => exact ⟨.float finite, rfl⟩
  | str text => exact ⟨.str text, rfl⟩
  | @list items all => cases items <;> contradiction
  | mapping json untyped => exact ⟨json, by simp [valueLines, untyped]⟩
  | node plain children shown => simp [lookOf, Node.isNode, plain.typed] at compact

theorem compact_decodes (positions : Bool) {value : Value} (canonical : Canonical value)
    (compact : lookOf value = .compact) : Decodes positions value := by
  intro other fine same
  have looks := look_of_same canonical fine same
  obtain ⟨json, lines⟩ := canonical_compact positions canonical compact
  obtain ⟨otherJson, otherLines⟩ :=
    canonical_compact positions fine (looks.symm.trans compact)
  rw [lines, otherLines] at same
  exact compactText_cut json otherJson (List.cons.inj same).1

-- The number of connectors is the number of items, so both have leads of one width.
theorem list_decodes {positions : Bool} {items : List Value}
    (canonical : ∀ item ∈ items, Canonical item)
    (decodes : ∀ item ∈ items, Decodes positions item) :
    Decodes positions (.sequence .list items) := by
  intro other fine same
  have looks := look_of_same (.list canonical) fine same
  have kinds : lookOf (.sequence .list items) = .blank ∨
      lookOf (.sequence .list items) = .listing := by
    cases items with
    | nil => exact Or.inl rfl
    | cons item rest => exact Or.inr rfl
  obtain ⟨others, rfl, all⟩ := canonical_list fine (looks ▸ kinds)
  have values : items.map arranged = others.map arranged := by
    cases items with
    | nil =>
        cases others with
        | nil => rfl
        | cons other rest => contradiction
    | cons item rest =>
        cases others with
        | nil => contradiction
        | cons other following =>
            have listed : siblingLines ⟨positions, false⟩ (item :: rest).length 0 (item :: rest) =
                siblingLines ⟨positions, false⟩ (other :: following).length 0
                  (other :: following) := same
            have counts : (item :: rest).length = (other :: following).length := by
              rw [← countP_siblingLines positions (item :: rest).length 0 (item :: rest), listed,
                countP_siblingLines]
            rw [← counts] at listed
            exact siblings_cut decodes all listed
  rw [arranged, arranged, Value.arrangedItems_map, Value.arrangedItems_map, values]

theorem attributes_plain {entries : Entries} {typeText : Text} (plain : PlainNode entries typeText)
    (shown : ∀ entry ∈ entries, isOwn entry.1 = false →
      expansion entry.1.plain entry.2 ≠ .text → Canonical entry.2) :
    ∀ entry ∈ attributesOf entries, PlainEntry entry := by
  intro entry inside
  obtain ⟨member, foreign⟩ := List.mem_filter.mp inside
  have apart : isOwn entry.1 = false := by simpa using foreign
  exact ⟨plain.names entry member apart, plain.held entry member apart, shown entry member apart⟩

theorem hasChildren_count (entries : Entries) :
    hasChildren entries = decide (0 < ((Node.children? entries).map List.length).getD 0) := by
  unfold hasChildren
  cases Node.children? entries with
  | none => rfl
  | some items => cases items <;> simp

/-- Below a header the attributes end where the first child opens. -/
theorem body_cut {positions : Bool} {entries others : Entries} {typeText otherType : Text}
    {lines rest : List Text} (one : PlainNode entries typeText) (two : PlainNode others otherType)
    (counts : (Node.children? entries).map List.length = (Node.children? others).map List.length)
    (same : lines.map (margin ⟨positions, false⟩ entries ++ ·) ++
        childLines ⟨positions, false⟩ entries =
      rest.map (margin ⟨positions, false⟩ others ++ ·) ++
        childLines ⟨positions, false⟩ others) :
    lines = rest ∧
      childLines ⟨positions, false⟩ entries = childLines ⟨positions, false⟩ others := by
  have children : hasChildren entries = hasChildren others := by
    rw [hasChildren_count, hasChildren_count, counts]
  have margins : margin ⟨positions, false⟩ entries = margin ⟨positions, false⟩ others := by
    rw [margin_plain, margin_plain, children]
  have closed : ∀ (entries : Entries) (lines : List Text),
      ∀ line ∈ lines.map (margin ⟨positions, false⟩ entries ++ ·), opensSibling line = false := by
    intro entries lines line inside
    obtain ⟨inner, -, rfl⟩ := List.mem_map.mp inside
    exact (margin_closed positions entries inner).1
  have opened : ∀ {entries : Entries} {typeText : Text}, PlainNode entries typeText →
      ∀ line ∈ (childLines ⟨positions, false⟩ entries).head?, opensSibling line = true := by
    intro entries typeText plain line inside
    rcases childLines_cases ⟨positions, false⟩ plain with ⟨none, -⟩ | ⟨items, -, -, listed⟩
    · rw [none] at inside
      contradiction
    · rw [listed] at inside
      exact siblingLines_open positions items.length 0 items line inside
  obtain ⟨bodies, tails⟩ := span_cut (closed entries lines) (closed others rest) (opened one)
    (opened two) same
  rw [margins] at bodies
  exact ⟨(List.map_inj_right fun _ _ equal => List.append_cancel_left equal).mp bodies, tails⟩

theorem children_cut {positions : Bool} {entries others : Entries} {typeText otherType : Text}
    (one : PlainNode entries typeText) (two : PlainNode others otherType)
    (decodes : ∀ items, entries.get? "children" = some (.sequence .list items) →
      ∀ item ∈ items, Decodes positions item)
    (canonical : ∀ items, others.get? "children" = some (.sequence .list items) →
      ∀ item ∈ items, Canonical item)
    (counts : (Node.children? entries).map List.length = (Node.children? others).map List.length)
    (same : childLines ⟨positions, false⟩ entries = childLines ⟨positions, false⟩ others) :
    (entries.get? "children").map arranged = (others.get? "children").map arranged := by
  rcases children_get one with ⟨missing, absent⟩ | ⟨items, children, found⟩
  · rcases children_get two with ⟨-, otherAbsent⟩ | ⟨more, otherChildren, -⟩
    · rw [absent, otherAbsent]
    · rw [missing, otherChildren] at counts
      contradiction
  · rcases children_get two with ⟨otherMissing, -⟩ | ⟨more, otherChildren, otherFound⟩
    · rw [children, otherMissing] at counts
      contradiction
    · rw [children, otherChildren] at counts
      have lengths : items.length = more.length := Option.some.inj counts
      have values : items.map arranged = more.map arranged := by
        by_cases none : items = []
        · have nothing : more = [] := List.length_eq_zero_iff.mp (by rw [← lengths, none]; rfl)
          rw [none, nothing]
        · have some : more ≠ [] := by
            rintro rfl
            exact none (List.length_eq_zero_iff.mp lengths)
          rw [childLines_of_children ⟨positions, false⟩ children none,
            childLines_of_children ⟨positions, false⟩ otherChildren some, lengths] at same
          exact siblings_cut (decodes items found) (canonical more otherFound) same
      rw [found, otherFound, Option.map_some, Option.map_some, arranged, arranged,
        Value.arrangedItems_map, Value.arrangedItems_map, values]

-- Type, payload and count come from the header; then the attributes are cut from
-- the children, and each of both is decoded on its own.
theorem node_decodes {positions : Bool} {form : MappingForm} {entries : Entries} {typeText : Text}
    (plain : PlainNode entries typeText)
    (children : ∀ items, entries.get? "children" = some (.sequence .list items) →
      ∀ item ∈ items, Canonical item)
    (shown : ∀ entry ∈ entries, isOwn entry.1 = false →
      expansion entry.1.plain entry.2 ≠ .text → Canonical entry.2)
    (childDecodes : ∀ items, entries.get? "children" = some (.sequence .list items) →
      ∀ item ∈ items, Decodes positions item)
    (entryDecodes : ∀ entry ∈ entries, isOwn entry.1 = false →
      expansion entry.1.plain entry.2 ≠ .text → Decodes positions entry.2) :
    Decodes positions (.mapping form entries) := by
  intro other fine same
  have looks := look_of_same (.node plain children shown) fine same
  have node : lookOf (.mapping form entries) = .node := by
    simp [lookOf, Node.isNode, plain.typed]
  obtain ⟨otherForm, others, otherType, rfl, otherPlain, otherChildren, otherShown⟩ :=
    canonical_node fine (looks.symm.trans node)
  rw [node_lines plain form, node_lines otherPlain otherForm] at same
  obtain ⟨headers, bodies⟩ := List.cons.inj same
  obtain ⟨types, contents⟩ :=
    word_cut plain.word otherPlain.word content_stops content_stops headers
  obtain ⟨payloads, counts⟩ := content_cut plain otherPlain contents
  obtain ⟨attributes, blocks⟩ := body_cut plain otherPlain counts bodies
  have listed := children_cut plain otherPlain childDecodes otherChildren counts blocks
  have values := entries_cut (attributes_plain plain shown)
    (attributes_plain otherPlain otherShown) (fun entry inside => by
      obtain ⟨member, foreign⟩ := List.mem_filter.mp inside
      exact entryDecodes entry member (by simpa using foreign)) attributes
  rw [attributesOf, attributesOf] at values
  rw [plain.arranged, otherPlain.arranged, types, payloads, listed, values]

/-- Canonical values with one plain report are equal up to the place of the own
entries of their nodes. -/
theorem report_determines_value (positions : Bool) {first second : Value} {shown : Text}
    (one : Canonical first) (two : Canonical second)
    (report : render ⟨positions, false⟩ first = .ok shown)
    (again : render ⟨positions, false⟩ second = .ok shown) :
    arranged first = arranged second := by
  have same : text ⟨positions, false⟩ first = text ⟨positions, false⟩ second :=
    (Decimal.write_eq_ok_iff.mp report).2.symm.trans (Decimal.write_eq_ok_iff.mp again).2
  have lines : valueLines ⟨positions, false⟩ first = valueLines ⟨positions, false⟩ second := by
    rw [← lines_text, same, lines_text]
  have decodes : Decodes positions first := by
    clear report again same lines
    induction one with
    | null => exact compact_decodes positions .null rfl
    | bool b => exact compact_decodes positions (.bool b) rfl
    | int n => exact compact_decodes positions (.int n) rfl
    | float finite => exact compact_decodes positions (.float finite) rfl
    | str text => exact compact_decodes positions (.str text) rfl
    | list all ih => exact list_decodes all ih
    | mapping json untyped =>
        exact compact_decodes positions (.mapping json untyped)
          (by simp [lookOf, Node.isNode, untyped])
    | node plain children shown childIh shownIh =>
        exact node_decodes plain children shown childIh shownIh
  exact decodes second two lines

/-- The own entries of a node may stand anywhere among the others. -/
theorem report_determines_moved_entries :
    let first : Value := .mapping .dictionary [(.str "type", .str "b"), (.str "k", .bool true),
      (.str "children", .sequence .list [.int 1])]
    let second : Value := .mapping .view [(.str "children", .sequence .list [.int 1]),
      (.str "k", .bool true), (.str "type", .str "b")]
    let shown : Text := "b[1]\n│ k: true\n└─0 1"
    Canonical first ∧ Canonical second ∧ render ⟨false, false⟩ first = .ok shown ∧
      render ⟨false, false⟩ second = .ok shown ∧ arranged first = arranged second := by
  intro first second shown
  have word : Text.IsWord "b" ∧ Text.IsWord "k" := by
    refine ⟨⟨by decide, by decide⟩, ⟨by decide, by decide⟩⟩
  have alone : ∀ items, some (Value.sequence .list [.int 1]) = some (.sequence .list items) →
      ∀ item ∈ items, Canonical item := by
    rintro items same item inside
    cases same
    cases List.mem_singleton.mp inside
    exact .int 1
  have listed : ∀ value, some (Value.sequence .list [.int 1]) = some value →
      ∃ items, value = .sequence .list items := by
    rintro value found
    cases found
    exact ⟨_, rfl⟩
  -- The only attribute of both is the text under `k`.
  have sole : ∀ entries : Entries, entries ⊆ [(.str "type", .str "b"), (.str "k", .bool true),
      (.str "children", .sequence .list [.int 1])] → ∀ entry ∈ entries, isOwn entry.1 = false →
        entry = (.str "k", .bool true) := by
    intro entries listed entry inside apart
    rcases listed inside with _ | ⟨_, _ | ⟨_, _ | ⟨_, nothing⟩⟩⟩
    · contradiction
    · rfl
    · contradiction
    · contradiction
  have early := sole _ (List.Subset.refl _)
  have late := sole [(.str "children", .sequence .list [.int 1]), (.str "k", .bool true),
    (.str "type", .str "b")] (by simp)
  have one : Canonical first := by
    refine .node ⟨⟨["type", "k", "children"], rfl, by decide⟩, rfl, word.1, by decide, rfl,
      by rintro value found; contradiction, listed, Or.inl rfl, ?_, ?_⟩ alone ?_
    · rintro entry inside apart
      exact early entry inside apart ▸ ⟨"k", rfl, word.2⟩
    · rintro entry inside apart
      exact early entry inside apart ▸ .bool true
    · rintro entry inside apart -
      exact early entry inside apart ▸ .bool true
  have two : Canonical second := by
    refine .node ⟨⟨["children", "k", "type"], rfl, by decide⟩, rfl, word.1, by decide, rfl,
      by rintro value found; contradiction, listed, Or.inl rfl, ?_, ?_⟩ alone ?_
    · rintro entry inside apart
      exact late entry inside apart ▸ ⟨"k", rfl, word.2⟩
    · rintro entry inside apart
      exact late entry inside apart ▸ .bool true
    · rintro entry inside apart -
      exact late entry inside apart ▸ .bool true
  have report : render ⟨false, false⟩ first = .ok shown := by decide +kernel
  have again : render ⟨false, false⟩ second = .ok shown := by decide +kernel
  exact ⟨one, two, report, again, report_determines_value false one two report again⟩

end Values

end TreeReport.Report
