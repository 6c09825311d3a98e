import TreeReport.Text.Utf8

/-!
Text and its bytes. Text without surrogate halves has an encoding, and decoding it
gives the text back; so does bringing line endings to one form, if no carriage return
stands in it.
-/
namespace TreeReport

/-- No surrogate half stands in the text. -/
def Text.Encodable (text : Text) : Prop := ∀ symbol ∈ text, Utf8.isSurrogate symbol = false

instance (text : Text) : Decidable text.Encodable :=
  inferInstanceAs (Decidable (∀ symbol ∈ text, Utf8.isSurrogate symbol = false))

namespace Text

@[simp] theorem encodable_nil : Encodable [] := by simp [Encodable]

@[simp] theorem encodable_cons (symbol : Symbol) (rest : Text) :
    Encodable (symbol :: rest) ↔ Utf8.isSurrogate symbol = false ∧ Encodable rest := by
  simp [Encodable]

@[simp] theorem encodable_append (first second : Text) :
    Encodable (first ++ second) ↔ Encodable first ∧ Encodable second := by
  simp [Encodable, or_imp, forall_and]

theorem Encodable.of_subset {text part : Text} (encodable : text.Encodable)
    (inside : part ⊆ text) : part.Encodable :=
  fun symbol member => encodable symbol (inside member)

theorem encodable_joinWith {separator : Text} {pieces : List Text}
    (apart : Encodable separator) (all : ∀ piece ∈ pieces, Encodable piece) :
    Encodable (joinWith separator pieces) := by
  intro symbol member
  rcases mem_joinWith member with between | ⟨piece, listed, inside⟩
  · exact apart symbol between
  · exact all piece listed symbol inside

end Text

namespace Utf8

section Sequences

theorem toNat_ofNat {n : Nat} (byte : n < 256) : (UInt8.ofNat n).toNat = n := by
  rw [UInt8.toNat_ofNat']
  omega

theorem lead_of_toNat {byte : UInt8} {n : Nat} (value : byte.toNat = n) :
    lead? byte =
      if n < 0xC2 then none
      else if n < 0xE0 then some ⟨n - 0xC0, 1, 0x80, 0xBF⟩
      else if n = 0xE0 then some ⟨0, 2, 0xA0, 0xBF⟩
      else if n = 0xED then some ⟨0xD, 2, 0x80, 0x9F⟩
      else if n < 0xF0 then some ⟨n - 0xE0, 2, 0x80, 0xBF⟩
      else if n = 0xF0 then some ⟨0, 3, 0x90, 0xBF⟩
      else if n < 0xF4 then some ⟨n - 0xF0, 3, 0x80, 0xBF⟩
      else if n = 0xF4 then some ⟨4, 3, 0x80, 0x8F⟩
      else none := by
  simp only [lead?, UInt8.lt_iff_toNat_lt, ← UInt8.toNat_inj, value]
  rfl

variable {payload n position : Nat} {low high byte : UInt8} {bytes rest : List UInt8} {done : Text}

theorem decodeFrom_last (value : byte.toNat = n + 128) (above : low.toNat ≤ n + 128)
    (below : n + 128 ≤ high.toNat) :
    decodeFrom position done (some ⟨bytes, payload, 1, low, high⟩) (byte :: rest) =
      decodeFrom (position + 1) (.char (Char.ofNat (payload * 64 + n)) :: done) none rest := by
  have within : low ≤ byte ∧ byte ≤ high := by
    rw [UInt8.le_iff_toNat_le, UInt8.le_iff_toNat_le, value]
    exact ⟨above, below⟩
  have added : n + 128 - 128 = n := by omega
  simp [decodeFrom, extend?, within, value, added]

theorem decodeFrom_further {following : Nat} (value : byte.toNat = n + 128)
    (above : low.toNat ≤ n + 128) (below : n + 128 ≤ high.toNat) (more : following ≠ 0) :
    decodeFrom position done (some ⟨bytes, payload, following + 1, low, high⟩) (byte :: rest) =
      decodeFrom (position + 1) done
        (some ⟨bytes ++ [byte], payload * 64 + n, following, 0x80, 0xBF⟩) rest := by
  have within : low ≤ byte ∧ byte ≤ high := by
    rw [UInt8.le_iff_toNat_le, UInt8.le_iff_toNat_le, value]
    exact ⟨above, below⟩
  have added : n + 128 - 128 = n := by omega
  simp [decodeFrom, extend?, within, value, added, more]

theorem decodeFrom_lead {expected : Lead} (announced : lead? byte = some expected)
    (long : 0x80 ≤ byte.toNat) :
    decodeFrom position done none (byte :: rest) =
      decodeFrom (position + 1) done (some ⟨[byte], expected⟩) rest := by
  have other : ¬ byte < 0x80 := by
    rw [UInt8.lt_iff_toNat_lt]
    exact Nat.not_lt.mpr long
  simp [decodeFrom, other, announced]

-- The range of the second byte shuts out surrogates and what lies past the last code
-- point, so it depends on the leading byte.
theorem lead_three {v : Nat} (least : 0x800 ≤ v) (most : v ≤ 0xFFFF)
    (scalar : v < 0xD800 ∨ 0xDFFF < v) :
    ∃ low high, lead? (UInt8.ofNat (v / 4096 % 16 + 224)) = some ⟨v / 4096, 2, low, high⟩ ∧
      low.toNat ≤ v / 64 % 64 + 128 ∧ v / 64 % 64 + 128 ≤ high.toNat := by
  rw [lead_of_toNat (toNat_ofNat (by omega))]
  by_cases first : v / 4096 = 0
  · refine ⟨0xA0, 0xBF, ?_, ?_, ?_⟩
    · rw [if_neg (by omega), if_neg (by omega), if_pos (by omega), first]
    · change 160 ≤ _
      omega
    · change _ ≤ 191
      omega
  · by_cases high : v / 4096 = 13
    · refine ⟨0x80, 0x9F, ?_, ?_, ?_⟩
      · rw [if_neg (by omega), if_neg (by omega), if_neg (by omega), if_pos (by omega), high]
      · change 128 ≤ _
        omega
      · change _ ≤ 159
        omega
    · have payload : v / 4096 % 16 + 224 - 0xE0 = v / 4096 := by omega
      refine ⟨0x80, 0xBF, ?_, ?_, ?_⟩
      · rw [if_neg (by omega), if_neg (by omega), if_neg (by omega), if_neg (by omega),
          if_pos (by omega), payload]
      · change 128 ≤ _
        omega
      · change _ ≤ 191
        omega

theorem lead_four {v : Nat} (least : 0x10000 ≤ v) (most : v < 0x110000) :
    ∃ low high, lead? (UInt8.ofNat (v / 262144 % 8 + 240)) = some ⟨v / 262144, 3, low, high⟩ ∧
      low.toNat ≤ v / 4096 % 64 + 128 ∧ v / 4096 % 64 + 128 ≤ high.toNat := by
  rw [lead_of_toNat (toNat_ofNat (by omega)), if_neg (by omega), if_neg (by omega),
    if_neg (by omega), if_neg (by omega), if_neg (by omega)]
  by_cases first : v / 262144 = 0
  · refine ⟨0x90, 0xBF, ?_, ?_, ?_⟩
    · rw [if_pos (by omega), first]
    · change 144 ≤ _
      omega
    · change _ ≤ 191
      omega
  · by_cases last : v / 262144 = 4
    · refine ⟨0x80, 0x8F, ?_, ?_, ?_⟩
      · rw [if_neg (by omega), if_neg (by omega), if_pos (by omega), last]
      · change 128 ≤ _
        omega
      · change _ ≤ 143
        omega
    · have payload : v / 262144 % 8 + 240 - 0xF0 = v / 262144 := by omega
      refine ⟨0x80, 0xBF, ?_, ?_, ?_⟩
      · rw [if_neg (by omega), if_pos (by omega), payload]
      · change 128 ≤ _
        omega
      · change _ ≤ 191
        omega

theorem toNat_following (n : Nat) : (UInt8.ofNat (n % 64 + 128)).toNat = n % 64 + 128 :=
  toNat_ofNat (by omega)

theorem following_range (n : Nat) :
    (0x80 : UInt8).toNat ≤ n % 64 + 128 ∧ n % 64 + 128 ≤ (0xBF : UInt8).toNat := by
  change 128 ≤ _ ∧ _ ≤ 191
  omega

variable {v : Nat}

theorem decodeFrom_one (most : v ≤ 0x7F) :
    decodeFrom position done none (UInt8.ofNat v :: rest) =
      decodeFrom (position + 1) (.char (Char.ofNat v) :: done) none rest := by
  have ascii : UInt8.ofNat v < 0x80 := by
    rw [UInt8.lt_iff_toNat_lt, toNat_ofNat (by omega)]
    exact Nat.lt_succ_of_le most
  rw [decodeFrom, if_pos ascii, toNat_ofNat (by omega)]

theorem decodeFrom_two (least : 0x80 ≤ v) (most : v ≤ 0x7FF) :
    decodeFrom position done none
        (UInt8.ofNat (v / 64 % 32 + 192) :: UInt8.ofNat (v % 64 + 128) :: rest) =
      decodeFrom (position + 2) (.char (Char.ofNat v) :: done) none rest := by
  have first := toNat_ofNat (n := v / 64 % 32 + 192) (by omega)
  have payload : v / 64 % 32 + 192 - 0xC0 = v / 64 := by omega
  have announced : lead? (UInt8.ofNat (v / 64 % 32 + 192)) = some ⟨v / 64, 1, 0x80, 0xBF⟩ := by
    rw [lead_of_toNat first, if_neg (by omega), if_pos (by omega), payload]
  have whole : v / 64 * 64 + v % 64 = v := by omega
  rw [decodeFrom_lead announced (by omega),
    decodeFrom_last (toNat_following v) (following_range v).1 (following_range v).2, whole]

theorem decodeFrom_three (least : 0x800 ≤ v) (most : v ≤ 0xFFFF)
    (scalar : v < 0xD800 ∨ 0xDFFF < v) :
    decodeFrom position done none
        (UInt8.ofNat (v / 4096 % 16 + 224) :: UInt8.ofNat (v / 64 % 64 + 128) ::
          UInt8.ofNat (v % 64 + 128) :: rest) =
      decodeFrom (position + 3) (.char (Char.ofNat v) :: done) none rest := by
  have first := toNat_ofNat (n := v / 4096 % 16 + 224) (by omega)
  obtain ⟨low, high, announced, above, below⟩ := lead_three least most scalar
  have whole : (v / 4096 * 64 + v / 64 % 64) * 64 + v % 64 = v := by omega
  rw [decodeFrom_lead announced (by omega),
    decodeFrom_further (toNat_following (v / 64)) above below (by decide),
    decodeFrom_last (toNat_following v) (following_range v).1 (following_range v).2, whole]

theorem decodeFrom_four (least : 0x10000 ≤ v) (most : v < 0x110000) :
    decodeFrom position done none
        (UInt8.ofNat (v / 262144 % 8 + 240) :: UInt8.ofNat (v / 4096 % 64 + 128) ::
          UInt8.ofNat (v / 64 % 64 + 128) :: UInt8.ofNat (v % 64 + 128) :: rest) =
      decodeFrom (position + 4) (.char (Char.ofNat v) :: done) none rest := by
  have first := toNat_ofNat (n := v / 262144 % 8 + 240) (by omega)
  obtain ⟨low, high, announced, above, below⟩ := lead_four least most
  have whole : ((v / 262144 * 64 + v / 4096 % 64) * 64 + v / 64 % 64) * 64 + v % 64 = v := by omega
  rw [decodeFrom_lead announced (by omega),
    decodeFrom_further (toNat_following (v / 4096)) above below (by decide),
    decodeFrom_further (toNat_following (v / 64)) (following_range (v / 64)).1
      (following_range (v / 64)).2 (by decide),
    decodeFrom_last (toNat_following v) (following_range v).1 (following_range v).2, whole]

theorem decodeFrom_char (position : Nat) (done : Text) (c : Char) (rest : List UInt8) :
    decodeFrom position done none (String.utf8EncodeChar c ++ rest) =
      decodeFrom (position + (String.utf8EncodeChar c).length) (.char c :: done) none rest := by
  obtain ⟨v, value⟩ : ∃ v, v = c.val.toNat := ⟨_, rfl⟩
  have valid : v < 0xD800 ∨ 0xDFFF < v ∧ v < 0x110000 := value ▸ c.valid
  have back : Char.ofNat v = c := value ▸ Char.ofNat_toNat c
  simp only [String.utf8EncodeChar, ← value]
  rw [← back]
  by_cases one : v ≤ 127
  · rw [if_pos one]
    exact decodeFrom_one one
  · rw [if_neg one]
    by_cases two : v ≤ 2047
    · rw [if_pos two]
      exact decodeFrom_two (by omega) two
    · rw [if_neg two]
      by_cases three : v ≤ 65535
      · rw [if_pos three]
        exact decodeFrom_three (by omega) three (by omega)
      · rw [if_neg three]
        exact decodeFrom_four (by omega) (by omega)

end Sequences

theorem decodeFrom_encode {text : Text} (encodable : text.Encodable) (position : Nat)
    (done : Text) : decodeFrom position done none (encode text) = .ok (done.reverse ++ text) := by
  induction text generalizing position done with
  | nil => simp [encode, decodeFrom]
  | cons symbol rest ih =>
      rw [Text.encodable_cons] at encodable
      cases symbol with
      | surrogate half => exact absurd encodable.1 (by simp [isSurrogate])
      | char c =>
          have split : encode (.char c :: rest) = String.utf8EncodeChar c ++ encode rest := rfl
          rw [split, decodeFrom_char, ih encodable.2]
          simp

/-- Decoding gives back every text that has an encoding. -/
theorem decode_encode {text : Text} (encodable : text.Encodable) :
    decode (encode text) = .ok text := by
  rw [decode, decodeFrom_encode encodable, List.reverse_nil, List.nil_append]

theorem universalNewlines_of_free {text : Text} (free : .char '\r' ∉ text) :
    universalNewlines text = text := by
  induction text with
  | nil => rfl
  | cons symbol rest ih =>
      simp only [List.mem_cons, not_or] at free
      unfold universalNewlines
      split
      · next same => cases same
      · next same =>
          cases same
          exact absurd rfl free.1
      · next same =>
          cases same
          exact absurd rfl free.1
      · next same =>
          cases same
          rw [ih free.2]

theorem unencodable_none_iff (position : Nat) (text : Text) :
    unencodable? position text = none ↔ text.Encodable := by
  induction text generalizing position with
  | nil => simp [unencodable?]
  | cons symbol rest ih =>
      cases symbol with
      | char c => simp [unencodable?, ih, isSurrogate]
      | surrogate half => simp [unencodable?, isSurrogate]

end Utf8

end TreeReport
