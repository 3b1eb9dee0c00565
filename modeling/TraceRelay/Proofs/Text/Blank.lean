import Mathlib.Data.List.DropRight
import TraceRelay.Text.Blank

/-!
# Text without blanks at its ends

Trimming keeps exactly the texts that neither start nor end with a blank (`trim_eq_self`), and gives
such a text (`isTrimmed_trim`).
-/

namespace TraceRelay

def IsTrimmed (text : List Char) : Prop :=
  (∀ c ∈ text.head?, isBlank c = false) ∧ ∀ c ∈ text.getLast?, isBlank c = false

theorem trimEnd_eq_rdropWhile (text : List Char) : trimEnd text = text.rdropWhile isBlank := rfl

theorem head?_trimStart (text : List Char) : ∀ c ∈ (trimStart text).head?, isBlank c = false := by
  intro c hc
  have h := List.head?_dropWhile_not isBlank text
  rw [Option.mem_def, trimStart] at hc
  rwa [hc] at h

theorem getLast?_trimEnd (text : List Char) : ∀ c ∈ (trimEnd text).getLast?, isBlank c = false := by
  intro c hc
  rw [trimEnd, List.getLast?_reverse] at hc
  exact head?_trimStart text.reverse c hc

theorem head?_trimEnd {text : List Char} {c : Char} (h : c ∈ (trimEnd text).head?) : c ∈ text.head? := by
  obtain ⟨rest, hrest⟩ := List.rdropWhile_prefix isBlank (l := text)
  rw [← trimEnd_eq_rdropWhile] at hrest
  cases he : trimEnd text with
  | nil => simp [he] at h
  | cons a l => rw [he] at h hrest; rw [← hrest]; exact h

theorem isTrimmed_trim (text : List Char) : IsTrimmed (trim text) :=
  ⟨fun c hc => head?_trimStart text c (head?_trimEnd hc), getLast?_trimEnd _⟩

theorem trim_eq_self {text : List Char} (h : IsTrimmed text) : trim text = text := by
  have h1 : trimStart text = text := by
    cases text with
    | nil => rfl
    | cons c text => exact List.dropWhile_cons_of_neg (by simp [h.1 c rfl])
  rw [trim, h1, trimEnd_eq_rdropWhile, List.rdropWhile_eq_self_iff]
  intro hne
  simp [h.2 _ (List.getLast?_eq_some_getLast hne)]

theorem isTrimmed_of_forall {text : List Char} (h : ∀ c ∈ text, isBlank c = false) : IsTrimmed text :=
  ⟨fun c hc => h c (List.mem_of_mem_head? hc), fun c hc => h c (List.mem_of_getLast? hc)⟩

theorem isBlank_of_isDigit {c : Char} (h : c.isDigit = true) : isBlank c = false := by
  have h1 : 48 ≤ c.toNat ∧ c.toNat ≤ 57 := by simpa [Char.isDigit, UInt32.le_iff_toNat_le] using h
  simp only [isBlank, Bool.or_eq_false_iff, Bool.and_eq_false_iff, decide_eq_false_iff_not, beq_eq_false_iff_ne]
  omega

theorem mem_of_mem_trim {text : List Char} {c : Char} (h : c ∈ trim text) : c ∈ text := by
  have h1 := List.mem_reverse.1 h
  have h2 := (List.dropWhile_sublist isBlank).subset h1
  exact (List.dropWhile_sublist isBlank).subset (List.mem_reverse.1 h2)

end TraceRelay
