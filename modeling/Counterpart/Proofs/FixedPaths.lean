import Counterpart.Proofs.Probing
import Counterpart.Proofs.Utf8
import Counterpart.Proofs.Walks

/-! Paths that do not depend on the working directory, as every candidate below a real root is. What
such a path finds has a real path, and it can be read unless it is no text file. -/

namespace Counterpart

/-! ### Fixed paths -/

namespace Path

theorem anchor_ofText {s : Text} (h : isAnchored s = true) : (ofText s).anchor ≠ .relative := by
  cases s with
  | nil => cases h
  | cons c s =>
    obtain rfl : c = '/' := by simpa [isAnchored] using h
    rw [ofText, List.takeWhile_cons_of_pos (by simp), List.length_cons]
    dsimp only
    unfold Anchor.ofSlashes
    split <;> simp_all

/-- A path that does not depend on the working directory, as reading gives it. -/
def IsFixed (p : Path) : Prop := p.anchor ≠ .relative ∧ p.IsRead

theorem IsFixed.hDiv {p : Path} (h : p.IsFixed) (s : Text) : (p / s).IsFixed := by
  have hs := isRead_ofText s
  by_cases hrel : (ofText s).anchor = .relative
  · rw [hDiv_eq, join_of_relative hrel]
    exact ⟨h.1, fun segment hmem => (List.mem_append.1 hmem).elim (h.2 segment) (hs segment)⟩
  · rw [hDiv_eq, join_of_anchored hrel]
    exact ⟨hrel, hs⟩

end Path

/-- Whatever joining keeps holds of every candidate if it holds of the workspace root. -/
theorem candidates_of_hDiv {P : Path → Prop} (hP : ∀ p (s : Text), P p → P (p / s))
    {conv : Conventions} {doc : Document} {root : Path} {found : Lookup} (hroot : P root)
    (hf : Lookup.find conv doc root = .ok found) : ∀ p ∈ found.candidates, P p := by
  have hroots : ∀ identity, ∀ p ∈ searchRoots conv root identity, P p := by
    intro identity p hp
    rw [searchRoots] at hp
    split at hp
    · rcases List.mem_cons.1 hp with rfl | hp
      · exact hroot
      · obtain ⟨dir, -, rfl⟩ := List.mem_map.1 hp
        exact hP _ _ (hP _ _ hroot)
    · exact List.mem_singleton.1 hp ▸ hroot
  intro p hp
  rcases Lookup.find_cases hf with ⟨identity, action, -, -, -, rfl⟩ | ⟨identity, action, -, -, rfl⟩
  · obtain ⟨base, hbase, hp⟩ := List.mem_flatMap.1 hp
    obtain ⟨extension, -, rfl⟩ := List.mem_map.1 hp
    exact hP _ _ (hP _ _ (hP _ _ (hP _ _ (hroots _ base hbase))))
  · obtain ⟨base, hbase, rfl⟩ := List.mem_map.1 hp
    exact hP _ _ (hP _ _ (hP _ _ (hroots _ base hbase)))

/-! ### What a fixed path leads to -/

namespace FileTree

variable {tree : FileTree} {path : Path} {entry : Entry}

theorem find_eq_ok_iff : tree.find path = .ok entry ↔
    ∃ place, tree.locate path = .ok place ∧ tree.entry? place = some entry := by
  rw [find]
  cases tree.locate path with
  | error fault => simp
  | ok place => cases hentry : tree.entry? place <;> simp [hentry]

/-- A file or directory that is found has a real path. -/
theorem exists_resolve_of_find (hp : path.anchor ≠ .relative) (h : tree.find path = .ok entry) :
    (∃ real, tree.resolve path = .ok real) ∧ ∀ target, entry ≠ .link target := by
  obtain ⟨place, hlocate, hentry⟩ := find_eq_ok_iff.1 h
  have hstart : tree.IsDirect (tree.start path) := by
    rw [start, if_neg hp]
    exact .nil
  obtain ⟨hresolve, hdirect⟩ := resolve_of_locate hstart hlocate
  refine ⟨⟨_, hresolve⟩, fun target => ?_⟩
  rintro rfl
  exact hdirect.entry_ne_link target hentry

/-- A file that can be read has a real path. -/
theorem exists_resolve_of_readText {path : Path} {text : Text}
    (hs : tree.IsDirect tree.workingDirectory) (h : tree.readText path = .ok text) :
    ∃ real, tree.resolve path = .ok real := by
  have hstart : tree.IsDirect (tree.start path) := by
    rw [start]
    split
    · exact hs
    · exact .nil
  cases hl : tree.locate path with
  | error fault => simp [readText, read, find, hl] at h
  | ok place => exact ⟨_, (resolve_of_locate hstart hl).1⟩

/-- A path leads to what is no text file: to a directory, to a file that cannot be read, or to bytes
that are no UTF-8. -/
def Unreadable (tree : FileTree) (path : Path) : Prop :=
  tree.find path = .ok .directory ∨ (∃ fault, tree.find path = .ok (.sealed fault)) ∨
    ∃ content, tree.find path = .ok (.file content) ∧ ∀ text, content ≠ encode text

theorem readText_of_unreadable (h : tree.Unreadable path) :
    ∃ e, tree.readText path = .error e := by
  rcases h with h | ⟨fault, h⟩ | ⟨content, h, hencode⟩
  · exact ⟨_, by rw [readText, read, h]⟩
  · exact ⟨_, by rw [readText, read, h]⟩
  · cases hd : decode content with
    | error e => exact ⟨_, by rw [readText, read, h]; dsimp only; rw [hd]⟩
    | ok text => exact absurd (decode_eq_ok_iff.1 hd) (hencode text)

theorem exists_readText (hf : tree.find path = .ok entry) (hl : ∀ target, entry ≠ .link target)
    (h : ¬ tree.Unreadable path) : ∃ text, tree.readText path = .ok text := by
  cases entry with
  | link target => exact absurd rfl (hl target)
  | directory => exact absurd (.inl hf) h
  | sealed fault => exact absurd (.inr (.inl ⟨fault, hf⟩)) h
  | file content =>
    obtain ⟨text, hencode⟩ : ∃ text, content = encode text := by
      by_contra hnone
      exact h (.inr (.inr ⟨content, hf, fun text ht => hnone ⟨text, ht⟩⟩))
    refine ⟨Text.unifyNewlines text, ?_⟩
    rw [readText, read, hf]
    dsimp only
    rw [decode_eq_ok_iff.2 hencode]

theorem holds_iff : tree.holds path = true ↔ ∃ entry, tree.find path = .ok entry := by
  rw [holds]
  cases tree.find path with
  | error e => simp [Except.toBool]
  | ok entry => simp [Except.toBool]

theorem answer_status : (tree.answer path).status = .present ↔ tree.holds path = true := by
  rw [← answer_found, ProbeResult.found, beq_iff_eq]

end FileTree

end Counterpart
