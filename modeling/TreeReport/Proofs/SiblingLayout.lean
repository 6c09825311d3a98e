import TreeReport.Proofs.ReportLines

/-!
How siblings hang. The lines of a plain listing fall into one group for each
sibling; behind a lead of one width every group holds the lines of its sibling
as they are on their own. Only the first line of a group opens with a connector,
so the siblings can be counted from the lines. A sibling that has no report, since an
integer in it is too long to be written, takes the whole listing with it.
-/
namespace TreeReport.Report

/-- What stands before the first line of a sibling: a branch or the last one, a
dash, the index in as many places as the last index has, and a space. -/
def firstLead (total index : Nat) : Text :=
  (if index + 1 = total then .char '└' else .char '├') :: .char '─' ::
    Decimal.natural index ++
      Text.spaces ((Decimal.natural (total - 1)).length - (Decimal.natural index).length + 1)

/-- What stands before its other lines: a bar, or a space under the last one,
and as many spaces as the index takes and two more. -/
def furtherLead (total index : Nat) : Text :=
  (if index + 1 = total then .char ' ' else .char '│') ::
    Text.spaces ((Decimal.natural (total - 1)).length + 2)

def opensSibling (line : Text) : Bool :=
  Text.startsWith "├─" line || Text.startsWith "└─" line

def siblingGroups (display : Display) (total index : Nat) : List Value → List (List Text)
  | [] => []
  | item :: rest =>
      hang (connector display total index) (continuation display total index)
          (valueLines display item) ::
        siblingGroups display total (index + 1) rest

section Leads

theorem connector_plain (positions : Bool) (total index : Nat) :
    connector ⟨positions, false⟩ total index = firstLead total index := by
  simp [connector, firstLead, Style.paint, Text.padRight, indexWidth, Text.spaces,
    List.replicate_succ']

theorem continuation_plain (positions : Bool) (total index : Nat) :
    continuation ⟨positions, false⟩ total index = furtherLead total index := by
  simp only [continuation, furtherLead, bar, Style.paint, indexWidth]
  split <;> simp

theorem firstLead_length {total index : Nat} (inside : index < total) :
    (firstLead total index).length = (Decimal.natural (total - 1)).length + 3 := by
  have fits : (Decimal.natural index).length ≤ (Decimal.natural (total - 1)).length :=
    Decimal.length_natural_mono (by omega)
  simp only [firstLead, List.length_cons, List.length_append, Text.spaces, List.length_replicate]
  omega

theorem furtherLead_length (total index : Nat) :
    (furtherLead total index).length = (Decimal.natural (total - 1)).length + 3 := by
  simp [furtherLead, Text.spaces]

theorem firstLead_opens (total index : Nat) (line : Text) :
    opensSibling (firstLead total index ++ line) = true := by
  unfold firstLead
  split <;> rfl

theorem furtherLead_closed (total index : Nat) (line : Text) :
    opensSibling (furtherLead total index ++ line) = false := by
  unfold furtherLead
  split <;> rfl

end Leads

section Groups

theorem siblingLines_groups (display : Display) (total index : Nat) (items : List Value) :
    siblingLines display total index items = (siblingGroups display total index items).flatten := by
  induction items generalizing index with
  | nil => rfl
  | cons item rest ih => rw [siblingLines, siblingGroups, List.flatten_cons, ih]

theorem siblingGroups_length (display : Display) (total index : Nat) (items : List Value) :
    (siblingGroups display total index items).length = items.length := by
  induction items generalizing index with
  | nil => rfl
  | cons item rest ih => simp [siblingGroups, ih]

theorem siblingGroups_getElem? (display : Display) (total start index : Nat) (items : List Value) :
    (siblingGroups display total start items)[index]? = items[index]?.map fun item =>
      hang (connector display total (start + index)) (continuation display total (start + index))
        (valueLines display item) := by
  induction items generalizing start index with
  | nil => rfl
  | cons item rest ih =>
      cases index with
      | zero => rfl
      | succ index =>
          have shifted : start + 1 + index = start + (index + 1) := by omega
          simp [siblingGroups, ih, shifted]

theorem drop_hang {first further : Text} {width : Nat} (head : first.length = width)
    (tail : further.length = width) (lines : List Text) :
    (hang first further lines).map (List.drop width) = lines := by
  cases lines with
  | nil => rfl
  | cons line rest =>
      have dropped : ∀ line : Text, List.drop width (further ++ line) = line :=
        fun line => by rw [← tail, List.drop_left]
      have leading : List.drop width (first ++ line) = line := by rw [← head, List.drop_left]
      simp [hang, Function.comp_def, dropped, leading]

theorem take_hang {first further : Text} {width : Nat} (head : first.length = width)
    (tail : further.length = width) {lines : List Text} (some : lines ≠ []) :
    (hang first further lines).map (List.take width) =
      first :: List.replicate ((hang first further lines).length - 1) further := by
  cases lines with
  | nil => exact absurd rfl some
  | cons line rest =>
      have taken : ∀ line : Text, List.take width (further ++ line) = further :=
        fun line => by rw [← tail, List.take_left]
      have leading : List.take width (first ++ line) = first := by rw [← head, List.take_left]
      simp [hang, Function.comp_def, taken, leading, List.map_const']

theorem filter_siblingLines (positions : Bool) (total index : Nat) (items : List Value) :
    (siblingLines ⟨positions, false⟩ total index items).filter opensSibling =
      items.mapIdx fun place item => firstLead total (index + place) ++
        (valueLines ⟨positions, false⟩ item).headD [] := by
  -- The index is shifted by the step, so the induction is over every start.
  induction items generalizing index with
  | nil => rfl
  | cons item rest ih =>
      obtain ⟨line, more, shape⟩ :=
        List.exists_cons_of_ne_nil (valueLines_ne_nil ⟨positions, false⟩ item)
      have closed : (more.map (furtherLead total index ++ ·)).filter opensSibling = [] := by
        simp [List.filter_eq_nil_iff, furtherLead_closed]
      have shifted : ∀ place, index + 1 + place = index + (place + 1) := by omega
      simp only [siblingLines, connector_plain, continuation_plain, shape, hang,
        List.filter_append, List.filter_cons, firstLead_opens, ↓reduceIte, closed, ih,
        List.mapIdx_cons, shifted, Nat.add_zero, List.headD_cons, List.singleton_append]

end Groups

theorem lines_sequence (display : Display) (form : SequenceForm) {items : List Value}
    (some : items ≠ []) : Text.lines (text display (.sequence form items)) =
      siblingLines display items.length 0 items := by
  cases items with
  | nil => exact absurd rfl some
  | cons item rest => rw [lines_text, valueLines]; simp

theorem childLines_of_children (display : Display) {entries : Entries} {items : List Value}
    (found : Node.children? entries = some items) (some : items ≠ []) :
    childLines display entries = siblingLines display items.length 0 items := by
  induction entries with
  | nil => simp [Node.children?, Entries.get?] at found
  | cons entry rest ih =>
      obtain ⟨key, value⟩ := entry
      by_cases here : key.isText "children" = true
      · simp only [Node.children?, Entries.get?, here, ↓reduceIte] at found
        cases value with
        | sequence form inner =>
            have same : inner = items := by simpa using found
            have block := lines_sequence display form some
            rw [lines_text] at block
            simp [childLines, here, same, Value.isSequence, Value.truth, some, block]
        | _ => simp at found
      · simp only [Node.children?, Entries.get?, here] at found
        simp only [childLines, here]
        exact ih found

-- Cutting a group at the width of its lead undoes what hanging did to its lines.
theorem siblingGroups_cut (positions : Bool) {items : List Value} {index : Nat}
    (inside : index < items.length) :
    ∃ group, (siblingGroups ⟨positions, false⟩ items.length 0 items)[index]? = some group ∧
      group.map (List.drop ((Decimal.natural (items.length - 1)).length + 3)) =
        Text.lines (text ⟨positions, false⟩ items[index]) ∧
      group.map (List.take ((Decimal.natural (items.length - 1)).length + 3)) =
        firstLead items.length index ::
          List.replicate (group.length - 1) (furtherLead items.length index) := by
  have found := siblingGroups_getElem? ⟨positions, false⟩ items.length 0 index items
  rw [List.getElem?_eq_getElem inside, Option.map_some, Nat.zero_add, connector_plain,
    continuation_plain] at found
  refine ⟨_, found, ?_, ?_⟩
  · rw [drop_hang (firstLead_length inside) (furtherLead_length items.length index), lines_text]
  · exact take_hang (firstLead_length inside) (furtherLead_length items.length index)
      (valueLines_ne_nil ⟨positions, false⟩ items[index])

theorem countP_siblingLines (positions : Bool) (total index : Nat) (items : List Value) :
    (siblingLines ⟨positions, false⟩ total index items).countP opensSibling = items.length := by
  rw [List.countP_eq_length_filter, filter_siblingLines, List.length_mapIdx]

theorem lines_parent (positions : Bool) {form : MappingForm} {entries : Entries}
    {typeText : Text} {items : List Value} (typed : Node.typeText? entries = some typeText)
    (children : Node.children? entries = some items) (nonempty : items ≠ []) :
    Text.lines (text ⟨positions, false⟩ (.mapping form entries)) =
      Text.lines (typeText ++ tagPart ⟨positions, false⟩ entries ++
        (("[" : Text) ++ Decimal.natural items.length ++ ("]" : Text)) ++
          rangePart ⟨positions, false⟩ entries) ++
        (attributeLines ⟨positions, false⟩ (Node.tagKey entries) entries).map
          (margin ⟨positions, false⟩ entries ++ ·) ++
        siblingLines ⟨positions, false⟩ items.length 0 items := by
  have header : header ⟨positions, false⟩ typeText entries =
      typeText ++ tagPart ⟨positions, false⟩ entries ++
        (("[" : Text) ++ Decimal.natural items.length ++ ("]" : Text)) ++
          rangePart ⟨positions, false⟩ entries := by
    simp [Report.header, contentPart, children, countPart, Style.paint]
  rw [← header, lines_text, ← childLines_of_children ⟨positions, false⟩ children nonempty]
  simp [valueLines, typed]

theorem mem_writtenChildren {positions : Bool} {entries : Entries} {items : List Value}
    (found : Node.children? entries = some items) (nonempty : items ≠ []) {n : Int}
    (inside : n ∈ writtenItems positions items) : n ∈ writtenChildren positions entries := by
  induction entries with
  | nil => simp [Node.children?, Entries.get?] at found
  | cons entry rest ih =>
      obtain ⟨key, value⟩ := entry
      by_cases here : key.isText "children" = true
      · simp only [Node.children?, Entries.get?, here, ↓reduceIte] at found
        cases value with
        | sequence form inner =>
            have same : inner = items := by simpa using found
            simpa [writtenChildren, here, same, Value.isSequence, Value.truth, nonempty, written]
              using inside
        | _ => simp at found
      · simp only [Node.children?, Entries.get?, here] at found
        simp only [writtenChildren, here]
        exact ih found

theorem render_children {display : Display} {mappingForm : MappingForm} {entries : Entries}
    {typeText whole : Text} {items : List Value} (typed : Node.typeText? entries = some typeText)
    (children : Node.children? entries = some items) (nonempty : items ≠ [])
    (shown : render display (.mapping mappingForm entries) = .ok whole) (form : SequenceForm) :
    render display (.sequence form items) = .ok (text display (.sequence form items)) := by
  have short := (render_eq_ok_iff.mp shown).1
  rw [written, typed] at short
  refine render_ok fun n inside => short n ?_
  rw [written] at inside
  exact List.mem_append_right _ (mem_writtenChildren children nonempty inside)

/-- A plain listing of siblings has no report if one of them has none. Otherwise it falls
into their groups, its connectors count them, and so does the number in the header of a
node that ends in it. -/
theorem sibling_layout (positions : Bool) (form : SequenceForm) (items : List Value)
    (nonempty : items ≠ []) :
    let display : Display := ⟨positions, false⟩
    let width := (Decimal.natural (items.length - 1)).length
    (render display (.sequence form items) = .error ⟨⟩ ↔
      ∃ item ∈ items, render display item = .error ⟨⟩) ∧
    (∀ listing, render display (.sequence form items) = .ok listing →
      let block := Text.lines listing
      (∃ groups : List (List Text), groups.length = items.length ∧ block = groups.flatten ∧
        ∀ index, (inside : index < items.length) → ∃ group report,
          groups[index]? = some group ∧ render display items[index] = .ok report ∧
          group.map (List.drop (width + 3)) = Text.lines report ∧
          group.map (List.take (width + 3)) = firstLead items.length index ::
            List.replicate (group.length - 1) (furtherLead items.length index)) ∧
      (block.filter opensSibling).length = items.length ∧
        ∀ index < items.length, ∃ line, (block.filter opensSibling)[index]? =
          some (firstLead items.length index ++ line)) ∧
    ∀ mappingForm entries typeText whole, Node.typeText? entries = some typeText →
      Node.children? entries = some items →
      render display (.mapping mappingForm entries) = .ok whole →
      ∃ listing attributes, render display (.sequence form items) = .ok listing ∧
        Text.lines whole =
          Text.lines (typeText ++ tagPart display entries ++ (("[" : Text) ++
            Decimal.natural ((Text.lines listing).countP opensSibling) ++ ("]" : Text)) ++
              rangePart display entries) ++ attributes ++ Text.lines listing := by
  intro display width
  have lines : Text.lines (text display (.sequence form items)) =
      siblingLines display items.length 0 items := lines_sequence display form nonempty
  have counted : (siblingLines display items.length 0 items).countP opensSibling =
      items.length := countP_siblingLines positions items.length 0 items
  refine ⟨render_sequence_error_iff display form items, ?_, ?_⟩
  · intro listing shown block
    obtain ⟨short, rfl⟩ := render_eq_ok_iff.mp shown
    have opened : block.filter opensSibling = items.mapIdx fun place item =>
        firstLead items.length place ++ (valueLines display item).headD [] := by
      simpa [block, lines] using filter_siblingLines positions items.length 0 items
    refine ⟨⟨siblingGroups display items.length 0 items,
      siblingGroups_length display items.length 0 items, ?_, ?_⟩, ?_, ?_⟩
    · rw [← siblingLines_groups, ← lines]
    · intro index inside
      obtain ⟨group, found, cut, leads⟩ := siblingGroups_cut positions inside
      refine ⟨group, _, found, render_ok fun n member => short n ?_, cut, leads⟩
      rw [written]
      exact mem_writtenItems.mpr ⟨_, List.getElem_mem inside, member⟩
    · rw [← List.countP_eq_length_filter, ← counted, ← lines]
    · intro index inside
      exact ⟨(valueLines display items[index]).headD [], by simp [opened, inside]⟩
  · intro mappingForm entries typeText whole typed children shown
    refine ⟨_, (attributeLines display (Node.tagKey entries) entries).map
      (margin display entries ++ ·), render_children typed children nonempty shown form, ?_⟩
    obtain ⟨-, rfl⟩ := render_eq_ok_iff.mp shown
    rw [lines, counted]
    exact lines_parent positions typed children nonempty

/-- A node of two lines stands between an empty list and a nested one. -/
theorem sibling_layout_nested :
    let items : List Value := [.sequence .list [],
      .mapping .dictionary [(.str "type", .str "a\nb")], .sequence .list [.int 1]]
    let parent : Entries := [(.str "type", .str "p"), (.str "children", .sequence .tuple items)]
    let block := ["├─0 ", "├─1 a", "│   b", "└─2 └─0 1"].map Text.ofString
    items ≠ [] ∧ render ⟨false, false⟩ (.sequence .tuple items) = .ok (Text.joinLines block) ∧
      (block.filter opensSibling).length = 3 ∧
      ∃ whole attributes, render ⟨false, false⟩ (.mapping .dictionary parent) = .ok whole ∧
        Text.lines whole = Text.lines "p[3]" ++ attributes ++ block := by
  intro items parent block
  have nonempty : items ≠ [] := by simp [items]
  have listed : render ⟨false, false⟩ (.sequence .tuple items) = .ok (Text.joinLines block) := by
    decide +kernel
  obtain ⟨whole, shown⟩ :
      ∃ whole, render ⟨false, false⟩ (.mapping .dictionary parent) = .ok whole :=
    ⟨_, render_ok (by decide +kernel)⟩
  obtain ⟨-, groups, headers⟩ := sibling_layout false .tuple items nonempty
  obtain ⟨-, counted, -⟩ := groups _ listed
  obtain ⟨listing, attributes, same, lines⟩ := headers .dictionary parent "p" whole rfl rfl shown
  rw [listed] at same
  cases same
  have header : ("p" : Text) ++ tagPart ⟨false, false⟩ parent ++
      (("[" : Text) ++ Decimal.natural items.length ++ ("]" : Text)) ++
        rangePart ⟨false, false⟩ parent = "p[3]" := by decide
  have cut : Text.lines (Text.joinLines block) = block := by decide +kernel
  rw [cut] at counted lines
  rw [List.countP_eq_length_filter, counted, header] at lines
  exact ⟨nonempty, listed, counted, whole, attributes, shown, lines⟩

/-- An item with too long an integer takes the item beside it out of sight. -/
theorem long_item_hides_listing :
    render ⟨false, false⟩ (.int 1) = .ok "1" ∧
      render ⟨false, false⟩ (.sequence .list [.int 1, .int Decimal.leastLong]) =
        .error ⟨⟩ := by
  refine ⟨by decide, ?_⟩
  rw [render_sequence_error_iff]
  exact ⟨_, List.mem_cons_of_mem _ List.mem_cons_self,
    render_long_integer Decimal.not_short_leastLong _⟩

end TreeReport.Report
