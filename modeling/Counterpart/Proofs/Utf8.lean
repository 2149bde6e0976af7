import Mathlib.Data.List.Forall2
import Counterpart.Encoding

/-! Bytes are decoded just when they are the UTF-8 encoding of a text, and to that text. -/

namespace Counterpart

/-- The number that the bits of a first byte and the bytes after it make up. -/
def joined (bits : Nat) (tail : List UInt8) : Nat :=
  tail.foldl (fun bits b => bits * 64 + (b.toNat - 0x80)) bits

theorem joined_nil (bits : Nat) : joined bits [] = bits := rfl

theorem joined_cons (bits : Nat) (b : UInt8) (tail : List UInt8) :
    joined bits (b :: tail) = joined (bits * 64 + (b.toNat - 0x80)) tail := by
  rw [joined, List.foldl_cons, joined]

/-- Bytes in the ranges that a first byte fixes. -/
def Follows (tail : List UInt8) (ranges : List (Nat × Nat)) : Prop :=
  List.Forall₂ (fun b range => range.1 ≤ b.toNat ∧ b.toNat ≤ range.2) tail ranges

theorem toNat_ofNat {v : Nat} (h : v.isValidChar) : (Char.ofNat v).toNat = v := by
  rw [Char.ofNat, dif_pos h]
  rfl

theorem toNat_byte {n : Nat} (h : n < 256) : (UInt8.ofNat n).toNat = n := by
  rw [UInt8.toNat_ofNat', Nat.mod_eq_of_lt h]

theorem ofNat_eq_iff {n : Nat} {b : UInt8} (h : n < 256) : UInt8.ofNat n = b ↔ n = b.toNat := by
  rw [← UInt8.toNat_inj, toNat_byte h]

theorem utf8EncodeChar_eq (c : Char) : String.utf8EncodeChar c =
    if c.toNat ≤ 0x7F then [UInt8.ofNat c.toNat]
    else if c.toNat ≤ 0x7FF then
      [UInt8.ofNat (c.toNat / 64 % 32 + 0xC0), UInt8.ofNat (c.toNat % 64 + 0x80)]
    else if c.toNat ≤ 0xFFFF then
      [UInt8.ofNat (c.toNat / 4096 % 16 + 0xE0), UInt8.ofNat (c.toNat / 64 % 64 + 0x80),
        UInt8.ofNat (c.toNat % 64 + 0x80)]
    else
      [UInt8.ofNat (c.toNat / 262144 % 8 + 0xF0), UInt8.ofNat (c.toNat / 4096 % 64 + 0x80),
        UInt8.ofNat (c.toNat / 64 % 64 + 0x80), UInt8.ofNat (c.toNat % 64 + 0x80)] := rfl

theorem toList_loop (bytes : ByteArray) (i : Nat) (before : List UInt8) :
    ByteArray.toList.loop bytes i before = before.reverse ++ bytes.data.toList.drop i := by
  have hsize : bytes.data.toList.length = bytes.size := rfl
  unfold ByteArray.toList.loop
  by_cases hi : i < bytes.size
  · have hget : bytes.get! i = bytes.data.toList[i] := by
      rw [ByteArray.get!, getElem!_pos bytes.data i hi, Array.getElem_toList]
    have hdrop : bytes.data.toList.drop i =
        bytes.data.toList[i] :: bytes.data.toList.drop (i + 1) := List.drop_eq_getElem_cons hi
    rw [if_pos hi, toList_loop bytes (i + 1), hget, hdrop, List.reverse_cons, List.append_assoc,
      List.singleton_append]
  · rw [if_neg hi, List.drop_eq_nil_of_le (by omega), List.append_nil]
termination_by bytes.size - i

theorem encode_eq_flatMap (text : Text) : encode text = text.flatMap String.utf8EncodeChar := by
  rw [encode, ByteArray.toList, toList_loop, List.reverse_nil, List.nil_append, List.drop_zero]
  exact List.toList_data_toByteArray

section

variable {v : Nat} {b b₁ b₂ b₃ : UInt8}

theorem utf8EncodeChar_one (h : v < 0x80) (hb : b.toNat = v) :
    String.utf8EncodeChar (Char.ofNat v) = [b] := by
  have hv : v.isValidChar := .inl (by omega)
  rw [utf8EncodeChar_eq, toNat_ofNat hv, if_pos (by omega),
    (ofNat_eq_iff (by omega)).2 hb.symm]

theorem utf8EncodeChar_two (h : 0x80 ≤ v ∧ v < 0x800) (hb : b.toNat = v / 64 + 0xC0)
    (h₁ : b₁.toNat = v % 64 + 0x80) : String.utf8EncodeChar (Char.ofNat v) = [b, b₁] := by
  have hv : v.isValidChar := .inl (by omega)
  rw [utf8EncodeChar_eq, toNat_ofNat hv, if_neg (by omega), if_pos (by omega),
    (ofNat_eq_iff (by omega)).2 (by omega : _ = b.toNat), (ofNat_eq_iff (by omega)).2 h₁.symm]

theorem utf8EncodeChar_three (h : 0x800 ≤ v ∧ v < 0x10000) (hv : v.isValidChar)
    (hb : b.toNat = v / 4096 + 0xE0) (h₁ : b₁.toNat = v / 64 % 64 + 0x80)
    (h₂ : b₂.toNat = v % 64 + 0x80) :
    String.utf8EncodeChar (Char.ofNat v) = [b, b₁, b₂] := by
  rw [utf8EncodeChar_eq, toNat_ofNat hv, if_neg (by omega), if_neg (by omega), if_pos (by omega),
    (ofNat_eq_iff (by omega)).2 (by omega : _ = b.toNat), (ofNat_eq_iff (by omega)).2 h₁.symm,
    (ofNat_eq_iff (by omega)).2 h₂.symm]

theorem utf8EncodeChar_four (h : 0x10000 ≤ v ∧ v < 0x110000) (hb : b.toNat = v / 262144 + 0xF0)
    (h₁ : b₁.toNat = v / 4096 % 64 + 0x80) (h₂ : b₂.toNat = v / 64 % 64 + 0x80)
    (h₃ : b₃.toNat = v % 64 + 0x80) :
    String.utf8EncodeChar (Char.ofNat v) = [b, b₁, b₂, b₃] := by
  have hv : v.isValidChar := .inr ⟨by omega, by omega⟩
  rw [utf8EncodeChar_eq, toNat_ofNat hv, if_neg (by omega), if_neg (by omega), if_neg (by omega),
    (ofNat_eq_iff (by omega)).2 (by omega : _ = b.toNat), (ofNat_eq_iff (by omega)).2 h₁.symm,
    (ofNat_eq_iff (by omega)).2 h₂.symm, (ofNat_eq_iff (by omega)).2 h₃.symm]

end

/-! ### First bytes -/

section

variable {n : Nat}

theorem lead?_one (h : n < 0x80) : lead? n = some ⟨n, []⟩ := if_pos h

theorem lead?_two (h : 0xC2 ≤ n ∧ n < 0xE0) : lead? n = some ⟨n - 0xC0, [continuation]⟩ := by
  rw [lead?, if_neg (by omega), if_neg (by omega), if_pos h.2]

/-- The second of three bytes is bounded where a number would be too small for three bytes, or would
be a surrogate. -/
theorem lead?_three (h : 0xE0 ≤ n ∧ n < 0xF0) :
    ∃ lo hi, lead? n = some ⟨n - 0xE0, [(lo, hi), continuation]⟩ ∧ ∀ m, lo ≤ m ∧ m ≤ hi ↔
      0x80 ≤ m ∧ m ≤ 0xBF ∧ (n = 0xE0 → 0xA0 ≤ m) ∧ (n = 0xED → m ≤ 0x9F) := by
  by_cases hlow : n = 0xE0
  · subst hlow
    exact ⟨0xA0, 0xBF, rfl, fun m => by omega⟩
  by_cases hsurrogate : n = 0xED
  · subst hsurrogate
    exact ⟨0x80, 0x9F, rfl, fun m => by omega⟩
  refine ⟨0x80, 0xBF, ?_, fun m => by omega⟩
  rw [lead?, if_neg (by omega), if_neg (by omega), if_neg (by omega), if_neg hlow,
    if_neg hsurrogate, if_pos h.2]
  rfl

/-- The second of four bytes is bounded where a number would be too small for four bytes, or would
be too large for a character. -/
theorem lead?_four (h : 0xF0 ≤ n ∧ n < 0xF5) :
    ∃ lo hi, lead? n = some ⟨n - 0xF0, [(lo, hi), continuation, continuation]⟩ ∧
      ∀ m, lo ≤ m ∧ m ≤ hi ↔
        0x80 ≤ m ∧ m ≤ 0xBF ∧ (n = 0xF0 → 0x90 ≤ m) ∧ (n = 0xF4 → m ≤ 0x8F) := by
  by_cases hlow : n = 0xF0
  · subst hlow
    exact ⟨0x90, 0xBF, rfl, fun m => by omega⟩
  by_cases hhigh : n = 0xF4
  · subst hhigh
    exact ⟨0x80, 0x8F, rfl, fun m => by omega⟩
  refine ⟨0x80, 0xBF, ?_, fun m => by omega⟩
  rw [lead?, if_neg (by omega), if_neg (by omega), if_neg (by omega), if_neg (by omega),
    if_neg (by omega), if_neg (by omega), if_neg hlow, if_pos (by omega)]
  rfl

theorem lead?_none (h : 0x80 ≤ n ∧ n < 0xC2 ∨ 0xF5 ≤ n) : lead? n = none := by
  rcases h with h | h
  · rw [lead?, if_neg (by omega), if_pos h.2]
  · rw [lead?, if_neg (by omega), if_neg (by omega), if_neg (by omega), if_neg (by omega),
      if_neg (by omega), if_neg (by omega), if_neg (by omega), if_neg (by omega),
      if_neg (by omega)]

end

/-- A first byte with bytes in the ranges that it fixes is the encoding of a character. -/
theorem utf8EncodeChar_of_lead {b : UInt8} {tail : List UInt8} {lead : Lead}
    (hlead : lead? b.toNat = some lead) (hfollow : Follows tail lead.follow) :
    String.utf8EncodeChar (Char.ofNat (joined lead.bits tail)) = b :: tail := by
  rcases (by omega : b.toNat < 0x80 ∨ (0xC2 ≤ b.toNat ∧ b.toNat < 0xE0) ∨
    (0xE0 ≤ b.toNat ∧ b.toNat < 0xF0) ∨ (0xF0 ≤ b.toNat ∧ b.toNat < 0xF5) ∨
    0x80 ≤ b.toNat ∧ b.toNat < 0xC2 ∨ 0xF5 ≤ b.toNat) with h | h | h | h | h
  · obtain rfl := Option.some.inj ((lead?_one h).symm.trans hlead)
    cases hfollow
    exact utf8EncodeChar_one h rfl
  · obtain rfl := Option.some.inj ((lead?_two h).symm.trans hlead)
    obtain _ | ⟨h₁, _ | _⟩ := hfollow
    rw [joined_cons, joined_nil]
    dsimp only [continuation] at h₁ ⊢
    exact utf8EncodeChar_two (by omega) (by omega) (by omega)
  · obtain ⟨lo, hi, heq, hrange⟩ := lead?_three h
    obtain rfl := Option.some.inj (heq.symm.trans hlead)
    obtain _ | ⟨h₁, _ | ⟨h₂, _ | _⟩⟩ := hfollow
    rw [joined_cons, joined_cons, joined_nil]
    dsimp only [continuation] at h₂ ⊢
    rw [hrange] at h₁
    refine utf8EncodeChar_three (by omega) ?_ (by omega) (by omega) (by omega)
    rw [Nat.isValidChar]
    omega
  · obtain ⟨lo, hi, heq, hrange⟩ := lead?_four h
    obtain rfl := Option.some.inj (heq.symm.trans hlead)
    obtain _ | ⟨h₁, _ | ⟨h₂, _ | ⟨h₃, _ | _⟩⟩⟩ := hfollow
    rw [joined_cons, joined_cons, joined_cons, joined_nil]
    dsimp only [continuation] at h₂ h₃ ⊢
    rw [hrange] at h₁
    exact utf8EncodeChar_four (by omega) (by omega) (by omega) (by omega) (by omega)
  · rw [lead?_none h] at hlead
    cases hlead

theorem exists_lead {c : Char} {b : UInt8} {tail : List UInt8}
    (h : String.utf8EncodeChar c = b :: tail) : ∃ lead, lead? b.toNat = some lead ∧
      Follows tail lead.follow ∧ joined lead.bits tail = c.toNat := by
  have hvalid : c.toNat.isValidChar := c.valid
  rw [Nat.isValidChar] at hvalid
  rw [utf8EncodeChar_eq] at h
  split at h
  · obtain ⟨hb, rfl⟩ := List.cons.inj h
    rw [ofNat_eq_iff (by omega)] at hb
    exact ⟨_, lead?_one (by omega), .nil, hb.symm⟩
  split at h
  · obtain ⟨hb, rfl⟩ := List.cons.inj h
    rw [ofNat_eq_iff (by omega)] at hb
    refine ⟨_, lead?_two (by omega), .cons ?_ .nil, ?_⟩
    · rw [toNat_byte (by omega), continuation]
      omega
    · rw [joined_cons, joined_nil, toNat_byte (by omega)]
      dsimp only
      omega
  split at h
  · obtain ⟨hb, rfl⟩ := List.cons.inj h
    rw [ofNat_eq_iff (by omega)] at hb
    obtain ⟨lo, hi, heq, hrange⟩ := @lead?_three b.toNat (by omega)
    refine ⟨_, heq, .cons ?_ (.cons ?_ .nil), ?_⟩
    · rw [toNat_byte (by omega), hrange]
      omega
    · rw [toNat_byte (by omega), continuation]
      omega
    · rw [joined_cons, joined_cons, joined_nil, toNat_byte (by omega), toNat_byte (by omega)]
      dsimp only
      omega
  · obtain ⟨hb, rfl⟩ := List.cons.inj h
    rw [ofNat_eq_iff (by omega)] at hb
    obtain ⟨lo, hi, heq, hrange⟩ := @lead?_four b.toNat (by omega)
    refine ⟨_, heq, .cons ?_ (.cons ?_ (.cons ?_ .nil)), ?_⟩
    · rw [toNat_byte (by omega), hrange]
      omega
    · rw [toNat_byte (by omega), continuation]
      omega
    · rw [toNat_byte (by omega), continuation]
      omega
    · rw [joined_cons, joined_cons, joined_cons, joined_nil, toNat_byte (by omega),
        toNat_byte (by omega), toNat_byte (by omega)]
      dsimp only
      omega

/-! ### Decoding -/

theorem map_eq_ok_iff {ε α β : Type} {f : α → β} {x : Except ε α} {y : β} :
    x.map f = .ok y ↔ ∃ a, x = .ok a ∧ y = f a := by
  cases x <;> simp [Except.map, eq_comm]

/-- Bytes that finish a character with the given bits, and a text that the rest of them gives. -/
def Finishes (offset bits : Nat) (follow : List (Nat × Nat)) (bytes : List UInt8)
    (text : Text) : Prop :=
  ∃ tail rest later, bytes = tail ++ rest ∧ Follows tail follow ∧
    decodeFrom (offset + tail.length) none rest = .ok later ∧
    text = Char.ofNat (joined bits tail) :: later

section

variable {offset bits lo hi : Nat} {follow : List (Nat × Nat)} {b : UInt8} {bytes : List UInt8}
  {text : Text}

theorem finishes_nil_iff : Finishes offset bits [] bytes text ↔
    (decodeFrom offset none bytes).map (Char.ofNat bits :: ·) = .ok text := by
  rw [map_eq_ok_iff]
  constructor
  · rintro ⟨tail, rest, later, rfl, hfollow, hrest, rfl⟩
    cases hfollow
    exact ⟨later, hrest, rfl⟩
  · rintro ⟨later, hrest, rfl⟩
    exact ⟨[], bytes, later, rfl, .nil, hrest, rfl⟩

theorem finishes_cons_iff : Finishes offset bits ((lo, hi) :: follow) (b :: bytes) text ↔
    (lo ≤ b.toNat ∧ b.toNat ≤ hi) ∧
      Finishes (offset + 1) (bits * 64 + (b.toNat - 0x80)) follow bytes text := by
  constructor
  · rintro ⟨tail, rest, later, hsplit, hfollow, hrest, htext⟩
    obtain _ | ⟨hb, hfollow⟩ := hfollow
    obtain ⟨rfl, rfl⟩ := List.cons.inj hsplit
    rw [List.length_cons, ← Nat.add_assoc, Nat.add_right_comm] at hrest
    rw [joined_cons] at htext
    exact ⟨hb, _, rest, later, rfl, hfollow, hrest, htext⟩
  · rintro ⟨hb, tail, rest, later, rfl, hfollow, hrest, htext⟩
    rw [← joined_cons] at htext
    refine ⟨b :: tail, rest, later, rfl, .cons hb hfollow, ?_, htext⟩
    rw [List.length_cons, ← Nat.add_assoc, Nat.add_right_comm]
    exact hrest

theorem not_finishes_nil (h : follow ≠ []) : ¬ Finishes offset bits follow [] text := by
  rintro ⟨tail, rest, later, hsplit, hfollow, -⟩
  obtain ⟨rfl, -⟩ := List.nil_eq_append_iff.1 hsplit
  exact h (List.forall₂_nil_left_iff.1 hfollow)

/-- Inside a character the decoder reads the bytes that follow and then goes on. -/
theorem decodeFrom_some {p : Partial} (hne : p.follow ≠ []) :
    decodeFrom offset (some p) bytes = .ok text ↔ Finishes offset p.bits p.follow bytes text := by
  induction bytes generalizing offset p with
  | nil => exact iff_of_false (by simp [decodeFrom]) (not_finishes_nil hne)
  | cons b bytes ih =>
    obtain ⟨start, first, count, bits, follow⟩ := p
    obtain ⟨⟨lo, hi⟩, follow, rfl⟩ := List.exists_cons_of_ne_nil hne
    rw [finishes_cons_iff, decodeFrom]
    dsimp only
    by_cases hb : lo ≤ b.toNat ∧ b.toNat ≤ hi
    · rw [if_pos hb, and_iff_right hb]
      cases follow with
      | nil => exact finishes_nil_iff.symm
      | cons range follow => exact ih (List.cons_ne_nil _ _)
    · rw [if_neg hb]
      exact iff_of_false (by simp) fun h => hb h.1

/-- Between characters the decoder reads a character and goes on. -/
theorem decodeFrom_none : decodeFrom offset none (b :: bytes) = .ok text ↔
    ∃ c tail rest later, String.utf8EncodeChar c = b :: tail ∧ bytes = tail ++ rest ∧
      decodeFrom (offset + 1 + tail.length) none rest = .ok later ∧ text = c :: later := by
  have hlead : (∃ c tail rest later, String.utf8EncodeChar c = b :: tail ∧ bytes = tail ++ rest ∧
      decodeFrom (offset + 1 + tail.length) none rest = .ok later ∧ text = c :: later) ↔
      ∃ lead, lead? b.toNat = some lead ∧
        Finishes (offset + 1) lead.bits lead.follow bytes text := by
    constructor
    · rintro ⟨c, tail, rest, later, hc, rfl, hrest, rfl⟩
      obtain ⟨lead, hlead, hfollow, hjoined⟩ := exists_lead hc
      refine ⟨lead, hlead, tail, rest, later, rfl, hfollow, hrest, ?_⟩
      rw [hjoined, Char.ofNat_toNat]
    · rintro ⟨lead, hlead, tail, rest, later, rfl, hfollow, hrest, rfl⟩
      exact ⟨_, tail, rest, later, utf8EncodeChar_of_lead hlead hfollow, rfl, hrest, rfl⟩
  rw [hlead, decodeFrom]
  cases hfirst : lead? b.toNat with
  | none => exact iff_of_false (by simp) (by simp)
  | some lead =>
    obtain ⟨bits, follow⟩ := lead
    simp only [Option.some.injEq, exists_eq_left']
    cases follow with
    | nil => exact finishes_nil_iff.symm
    | cons range follow => exact decodeFrom_some (List.cons_ne_nil _ _)

end

theorem decodeFrom_eq_ok_iff {offset : Nat} {bytes : List UInt8} {text : Text} :
    decodeFrom offset none bytes = .ok text ↔ bytes = text.flatMap String.utf8EncodeChar := by
  -- On the text, for the decoder takes the bytes of one character at a time.
  induction text generalizing offset bytes with
  | nil =>
    cases bytes with
    | nil => exact iff_of_true rfl rfl
    | cons b bytes =>
      rw [decodeFrom_none]
      exact iff_of_false (by simp) (by simp)
  | cons c text ih =>
    rw [List.flatMap_cons]
    cases bytes with
    | nil =>
      refine iff_of_false (by simp [decodeFrom]) fun h => ?_
      exact String.utf8EncodeChar_ne_nil (List.nil_eq_append_iff.1 h).1
    | cons b bytes =>
      rw [decodeFrom_none]
      constructor
      · rintro ⟨c', tail, rest, later, hc, rfl, hrest, htext⟩
        obtain ⟨rfl, rfl⟩ := List.cons.inj htext
        rw [hc, ih.1 hrest, List.cons_append]
      · intro h
        obtain ⟨first, tail, hc⟩ := List.exists_cons_of_ne_nil (@String.utf8EncodeChar_ne_nil c)
        rw [hc] at h
        obtain ⟨rfl, rfl⟩ := List.cons.inj h
        exact ⟨c, tail, _, text, hc, rfl, ih.2 rfl, rfl⟩

/-- Bytes are decoded to a text just when they are its encoding. -/
theorem decode_eq_ok_iff {bytes : List UInt8} {text : Text} :
    decode bytes = .ok text ↔ bytes = encode text := by
  rw [decode, decodeFrom_eq_ok_iff, encode_eq_flatMap]

end Counterpart
