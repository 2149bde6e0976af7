import Mathlib.Data.List.TakeDrop
import Counterpart.Lookup
import Counterpart.Proofs.Enclosure

/-! What stands behind the cursor does not matter, apart from the rest of a name that the cursor
cuts. Texts that agree up to the cursor, and on the word characters from there on, are looked up
alike, and the same is written in the journal. -/

namespace Counterpart

/-- The texts have the same characters before the cursor, and the same run of word characters behind
it. -/
def AgreeAt (cursor : Nat) (s t : Text) : Prop :=
  s.take cursor = t.take cursor ∧
    (s.drop cursor).takeWhile isWord = (t.drop cursor).takeWhile isWord

namespace AgreeAt

variable {cursor : Nat} {s t : Text}

/-- A word that starts before the cursor ends in the part on which the texts agree. -/
theorem takeWhile_isWord (h : AgreeAt cursor s t) {start : Nat} (hstart : start ≤ cursor) :
    (s.drop start).takeWhile isWord = (t.drop start).takeWhile isWord := by
  obtain ⟨hbefore, hword⟩ := h
  have hsplit (u : Text) : u.drop start = (u.take cursor).drop start ++ u.drop cursor := by
    have hcut := List.drop_take_append_drop u start (cursor - start)
    rw [Nat.add_sub_cancel' hstart] at hcut
    rw [List.drop_take, hcut]
  rw [hsplit s, hsplit t, hbefore, List.takeWhile_append, List.takeWhile_append, hword]

theorem clampOffset_eq (h : AgreeAt cursor s t) : clampOffset s cursor = clampOffset t cursor := by
  have hlength := congrArg List.length h.1
  simpa [clampOffset] using hlength

theorem enclosure_eq (h : AgreeAt cursor s t) (conv : Conventions) :
    enclosure conv s cursor = enclosure conv t cursor := by
  have hbefore : s.take (cursor : Int).toNat = t.take (cursor : Int).toNat := by
    rw [Int.toNat_natCast]
    exact h.1
  cases hd : (definitions conv.methodKeyword (s.take (cursor : Int).toNat)).getLast? with
  | none =>
    have hnone := List.getLast?_eq_none_iff.1 hd
    rw [enclosure_of_none hnone, enclosure_of_none (hbefore ▸ hnone)]
  | some d =>
    have hstart : d.nameStart ≤ cursor := by
      have hlt := (Definition.nameStart_lt (List.mem_of_getLast? hd)).2
      rw [List.length_take] at hlt
      omega
    rw [enclosure_of_last hd, enclosure_of_last (hbefore ▸ hd), hbefore, h.takeWhile_isWord hstart]

end AgreeAt

/-- Neither what a lookup finds, or fails with, nor what it writes in the journal tells two texts
apart that agree up to the cursor and on the word there. -/
theorem lookup_blind_to_later_text (conv : Conventions) (path : Text) (root : Path) {cursor : Nat}
    {s t : Text} (h : AgreeAt cursor s t) :
    Lookup.find conv ⟨path, s, cursor⟩ root = Lookup.find conv ⟨path, t, cursor⟩ root ∧
      Lookup.journal conv ⟨path, s, cursor⟩ root = Lookup.journal conv ⟨path, t, cursor⟩ root := by
  have hmethod : enclosingMethod? conv s cursor = enclosingMethod? conv t cursor := by
    rw [enclosingMethod?, enclosingMethod?, h.enclosure_eq conv]
  have hfind : Lookup.find conv ⟨path, s, cursor⟩ root =
      Lookup.find conv ⟨path, t, cursor⟩ root := by
    simp only [Lookup.find, hmethod]
  refine ⟨hfind, ?_⟩
  simp only [Lookup.journal, hfind, h.enclosure_eq conv, h.clampOffset_eq]

/-- The cursor is behind the second character of a name; the rest of the name is read, and nothing
after it. -/
theorem later_text_unread_in_name :
    let path : Text := "/ws/app/controllers/posts_controller.rb"
    let s : Text := "def show\n  x\nend\n"
    let t : Text := "def show(id)\ndef edit"
    AgreeAt 6 s t ∧
      Lookup.find .standard ⟨path, s, 6⟩ (Path.ofText "/ws") =
        Lookup.find .standard ⟨path, t, 6⟩ (Path.ofText "/ws") ∧
      (Lookup.find .standard ⟨path, t, 6⟩ (Path.ofText "/ws")).toOption.map Lookup.action =
        some "show" := by
  intro path s t
  have h : AgreeAt 6 s t := ⟨by decide, by decide⟩
  exact ⟨h, (lookup_blind_to_later_text .standard path (Path.ofText "/ws") h).1,
    by decide +kernel⟩

/-- The rest of a name does matter. -/
example : enclosingMethod? .standard "def show" 6 = some ("show" : Text) ∧
    enclosingMethod? .standard "def shut" 6 = some ("shut" : Text) := by
  decide +kernel

end Counterpart
