import LibvirtCim.Rasd.Instance
import Mathlib.Tactic.IntervalCases

/-!
# What is scanned

The two conversions of `sscanf` by what they read: `scanUpTo` a field without its delimiter
(`scanUpTo_spec`), `scanWord` a text without blanks (`Bare`).
-/

open Framework

namespace LibvirtCim.Rasd

/-! ### Fields -/

/-- A field is not empty, has no delimiter in it, and starts the text. -/
theorem scanUpTo_spec {c : Char} {cs rest : List Char} {field : String}
    (h : scanUpTo c cs = some (field, rest)) :
    field.toList ≠ [] ∧ c ∉ field.toList ∧ cs = field.toList ++ rest := by
  unfold scanUpTo at h
  dsimp only at h
  split_ifs at h with hnil
  obtain ⟨rfl, rfl⟩ := Prod.mk.inj (Option.some.inj h)
  rw [String.toList_ofList]
  refine ⟨hnil, fun hmem => ?_, ?_⟩
  · simpa using List.mem_takeWhile_imp hmem
  · exact (List.prefix_iff_eq_append.mp (List.takeWhile_prefix _)).symm

/-- A field is all that is before the delimiter. -/
theorem scanUpTo_eq (c : Char) (cs : List Char) :
    scanUpTo c cs = if cs.takeWhile (· ≠ c) = [] then none
      else some (String.ofList (cs.takeWhile (· ≠ c)), cs.dropWhile (· ≠ c)) := by
  unfold scanUpTo
  dsimp only
  split
  · rfl
  · have hsplit := List.prefix_iff_eq_append.mp (List.takeWhile_prefix (l := cs) (· ≠ c))
    have hdrop : cs.drop (cs.takeWhile (· ≠ c)).length = cs.dropWhile (· ≠ c) :=
      List.append_cancel_left (hsplit.trans List.takeWhile_append_dropWhile.symm)
    rw [hdrop]

/-! ### Words -/

/-- A text that is one word. -/
def Bare (text : String) : Prop :=
  text ≠ "" ∧ ∀ c ∈ text.toList, isSpace c = false

instance (text : String) : Decidable (Bare text) :=
  decidable_of_iff (text ≠ "" ∧ text.toList.all (fun c => !isSpace c) = true) (by simp [Bare])

/-- A word is one word. -/
theorem bare_of_scanWord {cs : List Char} {word : String} (h : scanWord cs = some word) :
    Bare word := by
  unfold scanWord at h
  dsimp only at h
  split_ifs at h with hnil
  obtain rfl := Option.some.inj h
  refine ⟨?_, ?_⟩
  · intro hempty
    apply hnil
    simpa using congrArg String.toList hempty
  · intro c hc
    rw [String.toList_ofList] at hc
    simpa using List.mem_takeWhile_imp hc

/-- A word is part of the text. -/
theorem mem_of_scanWord {cs : List Char} {word : String} (h : scanWord cs = some word) {c : Char}
    (hc : c ∈ word.toList) : c ∈ cs := by
  unfold scanWord at h
  dsimp only at h
  split_ifs at h with hnil
  obtain rfl := Option.some.inj h
  rw [String.toList_ofList] at hc
  exact (List.dropWhile_suffix _).subset ((List.takeWhile_prefix _).subset hc)

/-- One word is read as it is. -/
theorem scanWord_of_bare {text : String} (h : Bare text) : scanWord text.toList = some text := by
  have hall : ∀ c ∈ text.toList, isSpace c = false := h.2
  have hne : text.toList ≠ [] := by
    intro hnil
    exact h.1 (String.toList_inj.mp (by simpa using hnil))
  have hdrop : text.toList.dropWhile isSpace = text.toList := by
    cases hlist : text.toList with
    | nil => rfl
    | cons c cs =>
      rw [hlist] at hall
      exact List.dropWhile_cons_of_neg (by simp [hall c List.mem_cons_self])
  have htake : text.toList.takeWhile (fun c => !isSpace c) = text.toList := by
    rw [List.takeWhile_eq_self_iff]
    intro c hc
    rw [hall c hc]
    rfl
  unfold scanWord
  simp only [hdrop, htake, hne, if_false, String.ofList_toList]

/-- Case has nothing to do with blanks. -/
theorem isSpace_toLower (c : Char) : isSpace c.toLower = isSpace c := by
  unfold Char.toLower
  split
  · next h =>
    -- an upper case letter, and the letter it becomes
    have hle : 65 ≤ c.toNat ∧ c.toNat ≤ 90 := by
      obtain ⟨h1, h2⟩ := h
      exact ⟨UInt32.le_iff_toNat_le.mp h1, UInt32.le_iff_toNat_le.mp h2⟩
    obtain ⟨n, hn⟩ : ∃ n, c.toNat = n := ⟨_, rfl⟩
    rw [hn] at hle
    obtain ⟨hlow, hhigh⟩ := hle
    have hc : c = Char.ofNat n := by rw [← hn, Char.ofNat_toNat]
    subst hc
    interval_cases n <;> rfl
  · rfl

/-- What is equal up to case to one word is one word. -/
theorem Bare.of_streqc {a b : String} (h : Bare a) (heq : streqc a b = true) : Bare b := by
  have hlower : a.toList.map Char.toLower = b.toList.map Char.toLower := of_decide_eq_true heq
  refine ⟨?_, ?_⟩
  · rintro rfl
    apply h.1
    apply String.toList_inj.mp
    simpa using hlower
  · intro c hc
    have hmem : c.toLower ∈ a.toList.map Char.toLower := by
      rw [hlower]
      exact List.mem_map_of_mem hc
    obtain ⟨c', hc', hlow⟩ := List.mem_map.mp hmem
    rw [← isSpace_toLower, ← hlow, isSpace_toLower]
    exact h.2 c' hc'

end LibvirtCim.Rasd
