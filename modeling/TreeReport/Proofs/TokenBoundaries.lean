import Mathlib.Data.List.Chain
import TreeReport.Proofs.Stripping

/-!
Stripping a text that is put together of raw pieces and painted tokens. Stripping takes
complete sequences out from the left and does not search again what it keeps. So raw
pieces that stand side by side may join into a sequence that none of them holds. A token
that is not empty keeps them apart: it is stripped by itself, and so is what stands before
it and behind it.
-/
namespace TreeReport.Style

section Pieces

/-- What a text is put together of: raw text, and tokens in the style of a role. -/
inductive Piece where
  | raw (text : Text)
  | token (role : Role) (text : Text)
  deriving DecidableEq, Repr

namespace Piece

def text : Piece → Text
  | .raw text => text
  | .token _ text => text

def shown : Piece → Text
  | .raw text => text
  | .token role text => paint role true text

def isToken : Piece → Bool
  | .raw _ => false
  | .token _ _ => true

def isBlank (piece : Piece) : Bool := piece.isToken && piece.text.isEmpty

end Piece

def textOf (pieces : List Piece) : Text := pieces.flatMap Piece.shown

/-- Between any two raw pieces stands a token that is not empty: of two neighbours, blank
tokens left out, one is a token. -/
def Separated (pieces : List Piece) : Prop :=
  (pieces.filter fun piece => !piece.isBlank).IsChain fun piece next =>
    piece.isToken = true ∨ next.isToken = true

instance (pieces : List Piece) : Decidable (Separated pieces) := by
  unfold Separated
  infer_instance

/-- The texts that are stripped each by itself: the tokens that are not empty, and all that
is raw before, between and behind them. The first text is what has been read of a raw one. -/
def stretches (before : Text) : List Piece → List Text
  | [] => [before]
  | .raw text :: rest => stretches (before ++ text) rest
  | .token _ [] :: rest => stretches before rest
  | .token _ (symbol :: more) :: rest => before :: (symbol :: more) :: stretches [] rest

variable {before : Text} {pieces : List Piece}

theorem strip_stretches (before : Text) (pieces : List Piece) :
    strip (before ++ textOf pieces) = (stretches before pieces).flatMap strip := by
  fun_induction stretches before pieces with
  | case1 before => simp [textOf]
  | case2 before text rest ih =>
      rw [← ih]
      simp [textOf, Piece.shown]
  | case3 before role rest ih =>
      rw [← ih]
      simp [textOf, Piece.shown, paint]
  | case4 before role symbol more rest ih =>
      have parted := strip_painted (List.cons_ne_nil symbol more) role before (textOf rest)
      rw [List.nil_append] at ih
      rw [List.flatMap_cons, List.flatMap_cons, ← ih, ← List.append_assoc, ← parted]
      simp [textOf, Piece.shown]

/-- A blank token keeps nothing apart. -/
example : strip (textOf [.raw "\x1b[3", .token .count "", .raw "1m"]) = [] := by decide

theorem Separated.tail {piece : Piece} (parted : Separated (piece :: pieces)) :
    Separated pieces := by
  unfold Separated at parted ⊢
  rw [List.filter_cons] at parted
  split at parted
  · exact parted.tail
  · exact parted

theorem separated_blank (front : List Piece) (role : Role) (back : List Piece) :
    Separated (front ++ .token role [] :: back) ↔ Separated (front ++ back) := by
  simp [Separated, Piece.isBlank, Piece.isToken, Piece.text]

theorem not_separated_raw (first second : Text) (rest : List Piece) :
    ¬ Separated (.raw first :: .raw second :: rest) := by
  simp [Separated, Piece.isBlank, Piece.isToken]

theorem stretches_separated
    (parted : before = [] ∧ Separated pieces ∨ Separated (.raw before :: pieces)) :
    (stretches before pieces).flatMap strip =
      strip before ++ pieces.flatMap fun piece => strip piece.text := by
  -- At the start and behind a token no raw text has been begun. One that has been begun
  -- counts as a piece before the others, so it cannot go on with another raw one.
  fun_induction stretches before pieces with
  | case1 before => simp
  | case2 before text rest ih =>
      rcases parted with ⟨rfl, parted⟩ | clash
      · rw [ih (.inr parted)]
        rfl
      · exact absurd clash (not_separated_raw before text rest)
  | case3 before role rest ih =>
      have inner := separated_blank [.raw before] role rest
      rw [ih (parted.imp (fun start => ⟨start.1, start.2.tail⟩) inner.mp)]
      rfl
  | case4 before role symbol more rest ih =>
      have behind : Separated rest :=
        parted.elim (fun start => start.2.tail) fun begun => begun.tail.tail
      rw [List.flatMap_cons, List.flatMap_cons, ih (.inl ⟨rfl, behind⟩)]
      rfl

theorem strip_separated (parted : Separated pieces) :
    strip (textOf pieces) = pieces.flatMap fun piece => strip piece.text := by
  have whole := strip_stretches [] pieces
  rw [stretches_separated (.inl ⟨rfl, parted⟩)] at whole
  exact whole

end Pieces

theorem paintNamed_known {name : Text}
    (known : name ∈ (["type", "punctuation", "count", "literal"] : List Text)) :
    ∃ role, ∀ text, paintNamed name true text = .ok (paint role true text) := by
  have found : ∃ role, Role.ofName? name = some role := by
    simp only [List.mem_cons, List.not_mem_nil, or_false] at known
    rcases known with rfl | rfl | rfl | rfl
    · exact ⟨.nodeType, by decide⟩
    · exact ⟨.punctuation, by decide⟩
    · exact ⟨.count, by decide⟩
    · exact ⟨.literal, by decide⟩
  obtain ⟨role, found⟩ := found
  refine ⟨role, fun text => ?_⟩
  cases text with
  | nil => rfl
  | cons symbol rest => simp [paintNamed, found]

/-- A token that is painted in the style of a known role and is not empty is stripped by
itself, and so is what stands on both sides of it. So of a text that is put together of
raw pieces and tokens, whatever symbols they hold, the tokens and the stretches of raw
pieces between them are stripped one by one, and when no two raw pieces stand side by
side, all pieces are. -/
theorem painted_tokens_part_texts :
    (∀ name ∈ (["type", "punctuation", "count", "literal"] : List Text), ∀ before text after,
      text ≠ [] → ∃ role, paintNamed name true text = .ok (paint role true text) ∧
        strip (before ++ paint role true text ++ after) =
          strip before ++ strip text ++ strip after) ∧
      (∀ pieces, strip (textOf pieces) = (stretches [] pieces).flatMap strip) ∧
      ∀ pieces, Separated pieces →
        strip (textOf pieces) = pieces.flatMap fun piece => strip piece.text := by
  refine ⟨?_, fun pieces => strip_stretches [] pieces, fun pieces => strip_separated⟩
  intro name known before text after some
  obtain ⟨role, painted⟩ := paintNamed_known known
  exact ⟨role, painted text, strip_painted some role before after⟩

/-- What is unfinished before a token is not finished in it or behind it. -/
theorem painted_tokens_part_texts_unfinished :
    let pieces : List Piece :=
      [.raw "\x1b[3", .token .nodeType "1m\x1b[", .token .count "", .raw "0m"]
    Separated pieces ∧ strip (textOf pieces) = "\x1b[31m\x1b[0m" := by
  intro pieces
  have parted : Separated pieces := by decide
  obtain ⟨-, -, separated⟩ := painted_tokens_part_texts
  exact ⟨parted, separated pieces parted⟩

end TreeReport.Style
