import Mathlib.Data.List.Basic
import Walkthrough.Proofs.Text.CaseFold
import Walkthrough.Text.FilePath
import Walkthrough.Text.Lowercase

namespace Walkthrough.Text

theorem eq_slash_of_toLower {c : Char} (hascii : c.toNat < 128) (h : c.toLower = '/') : c = '/' := by
  have hlower : ∀ n < 128, (Char.ofNat n).toLower = '/' → Char.ofNat n = '/' := by decide
  have hc := hlower c.toNat hascii
  rw [Char.ofNat_toNat] at hc
  exact hc h

theorem lowerShifts_spare_slash :
    lowerShifts.all (fun s => s.spares '/'.toNat '/'.toNat) = true := by
  decide +kernel

theorem applyFirst_ne_slash {n : Nat} (hn : 128 ≤ n) :
    Shift.applyFirst lowerShifts n ≠ '/'.toNat := by
  intro h
  obtain rfl | ⟨s, hs, himage⟩ := applyFirst_eq h
  · exact absurd hn (by decide)
  · have hspares := List.all_eq_true.mp lowerShifts_spare_slash s hs
    exact Shift.image?_ne_of_spares hspares (by decide) (Nat.le_refl _) (Nat.le_refl _) himage

theorem eq_slash_of_mem_lowerChar {c : Char} (h : '/' ∈ lowerChar c) : c = '/' := by
  unfold lowerChar at h
  split at h
  · next hascii => exact eq_slash_of_toLower hascii (List.mem_singleton.mp h).symm
  · next hwide =>
    split at h
    · exact absurd h (by decide)
    · have hcode := toNat_ofNat (by decide) (List.mem_singleton.mp h).symm
      exact absurd hcode (applyFirst_ne_slash (Nat.le_of_not_lt hwide))

/-- What names something in a directory: no path, nor the directory itself or the one above. -/
structure IsFileName (name : String) : Prop where
  some : name ≠ ""
  not_here : name ≠ "."
  not_above : name ≠ ".."
  flat : '/' ∉ name.toList

/-- Paths that are a directory followed by one name. -/
def DirectlyIn (dir path : String) : Prop :=
  ∃ name, IsFileName name ∧ path = joinPath dir name

theorem IsFileName.of_length {name : String} (hlength : 2 < name.toList.length)
    (hflat : '/' ∉ name.toList) : IsFileName name where
  some h := by
    rw [h] at hlength
    exact absurd hlength (by decide)
  not_here h := by
    rw [h] at hlength
    exact absurd hlength (by decide)
  not_above h := by
    rw [h] at hlength
    exact absurd hlength (by decide)
  flat := hflat

theorem IsFileName.not_absolute {name : String} (h : IsFileName name) :
    isAbsolutePath name = false := by
  rw [Bool.eq_false_iff]
  intro habsolute
  have hbegins : "/".toList <+: name.toList := String.startsWith_string_iff.mp habsolute
  exact h.flat (hbegins.subset List.mem_cons_self)

theorem DirectlyIn.begins {dir path : String} (h : DirectlyIn dir path) :
    dir.toList <+: path.toList := by
  obtain ⟨name, hname, rfl⟩ := h
  unfold joinPath
  rw [hname.not_absolute, if_neg Bool.false_ne_true]
  split
  · rw [String.toList_append]
    exact List.prefix_append _ _
  · rw [String.toList_append, String.toList_append, List.append_assoc]
    exact List.prefix_append _ _

end Walkthrough.Text
