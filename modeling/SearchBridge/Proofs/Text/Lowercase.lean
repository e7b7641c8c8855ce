import Mathlib.Data.List.Nodup
import SearchBridge.Text.Lowercase

/-!
# Theory of lower case

Lowering a text leaves nothing to lower: no lower-case form lies in a run of characters that have
another one, and no capital sigma remains, so the place of a character in its word no longer counts.

Lowering the ASCII letters alone and lowering all characters differ on texts like the ones with the
Kelvin sign, whose lower-case form is the ASCII letter `k`. It and U+0130, whose form begins with
`i`, are the only characters beyond ASCII that become ASCII letters. A word without these two
letters is therefore written by the same texts in both senses.

## Main definitions

* `CaseRun.apart` : the lower-case forms of one run are not members of another one.
* `lowerForms` : the characters that a character may become in a text.

## Main results

* `lower_lower` : lowering a second time changes nothing.
* `lowerAscii_eq_iff_lower_eq` : texts that become a given word when their ASCII letters are
  lowered.
-/

namespace SearchBridge.Text

/-! ### Runs of characters -/

namespace CaseRun

/-- The least lower-case form of a member. -/
def lowerFirst (r : CaseRun) : Nat := (r.first + r.shift).toNat

/-- The greatest lower-case form of a member. -/
def lowerLast (r : CaseRun) : Nat := (r.last + r.shift).toNat

/-- The lower-case forms of one run lie before the members of another one, after them, or between
them in the gaps of its stride. -/
def apart (r s : CaseRun) : Bool :=
  r.lowerLast.blt s.first || s.last.blt r.lowerFirst ||
    (r.stride.beq 2 || r.first.beq r.last) && s.stride.beq 2 &&
      ((r.lowerFirst + s.first) % 2).beq 1

theorem apart_iff {r s : CaseRun} : r.apart s ↔
    r.lowerLast < s.first ∨ s.last < r.lowerFirst ∨
      (r.stride = 2 ∨ r.first = r.last) ∧ s.stride = 2 ∧ (r.lowerFirst + s.first) % 2 = 1 := by
  simp only [apart, Bool.or_eq_true, Bool.and_eq_true, Nat.blt_eq, Nat.beq_eq, or_assoc, and_assoc]

theorem covers_iff {r : CaseRun} {code : Nat} : r.covers code ↔
    r.first ≤ code ∧ code ≤ r.last ∧ (code - r.first) % r.stride = 0 :=
  decide_eq_true_iff

/-- The lower-case form of a member of a run is no member of a run apart from it. -/
theorem not_covers_of_apart {r s : CaseRun} {code : Nat} (h : r.apart s)
    (hr : 0 ≤ r.first + r.shift) (hc : r.covers code) : ¬s.covers (code + r.shift).toNat := by
  obtain ⟨hfirst, hlast, hstride⟩ := covers_iff.mp hc
  rw [covers_iff]
  rintro ⟨hfirst', hlast', hstride'⟩
  rw [apart_iff, lowerFirst, lowerLast] at h
  obtain h | h | ⟨hr2, hs2, hodd⟩ := h
  · omega
  · omega
  · have heven : (code - r.first) % 2 = 0 := by
      obtain h2 | h1 := hr2
      · rwa [h2] at hstride
      · rw [show code = r.first by omega, Nat.sub_self]
    rw [hs2] at hstride'
    omega

end CaseRun

/-- No lower-case form has another lower-case form; U+0130 counts as a run of its own. -/
theorem apart_lowerRuns :
    (lowerRuns.all fun r => (⟨0x130, 0x130, 1, 0⟩ :: lowerRuns).all r.apart) = true := by
  decide +kernel

/-- Lower-case forms are characters. -/
theorem isValidChar_lowerRuns : ∀ r ∈ lowerRuns, 0 ≤ r.first + r.shift ∧
    (r.lowerLast < 0xD800 ∨ 0xDFFF < r.lowerFirst ∧ r.lowerLast < 0x110000) := by
  decide +kernel

/-- The runs that begin in ASCII, or whose lower-case forms do, are those of the ASCII letters and
of the Kelvin sign. -/
theorem ascii_lowerRuns : ∀ r ∈ lowerRuns, r = ⟨0x41, 0x5A, 1, 32⟩ ∨
    128 ≤ r.first ∧ (r = ⟨0x212A, 0x212A, 1, -8383⟩ ∨ 128 ≤ r.lowerFirst) := by
  decide +kernel

/-! ### Characters -/

theorem toNat_ofNat_of_isValidChar {code : Nat} (h : code.isValidChar) :
    (Char.ofNat code).toNat = code := by
  rw [Char.ofNat, dif_pos h]
  rfl

/-- The lower-case form of a character is that of U+0130, comes from a run, or is itself. -/
theorem lowerChar_cases (c : Char) :
    c.toNat = 0x130 ∧ lowerChar c = ['i', Char.ofNat 0x307] ∨
      (∃ r ∈ lowerRuns, r.covers c.toNat ∧
        lowerChar c = [Char.ofNat (c.toNat + r.shift).toNat]) ∨
      lowerChar c = [c] ∧ ∀ r ∈ lowerRuns, ¬r.covers c.toNat := by
  rw [lowerChar]
  split
  · next h => exact .inl ⟨h, rfl⟩
  · split
    · next r hr =>
      have hcovers : r.covers c.toNat := by simpa using List.find?_some hr
      exact .inr (.inl ⟨r, List.mem_of_find?_eq_some hr, hcovers, rfl⟩)
    · next hr => exact .inr (.inr ⟨rfl, fun r h => List.find?_eq_none.mp hr r h⟩)

theorem lowerChar_of_not_covers {c : Char} (hc : c.toNat ≠ 0x130)
    (h : ∀ r ∈ lowerRuns, ¬r.covers c.toNat) : lowerChar c = [c] := by
  rw [lowerChar, if_neg hc, List.find?_eq_none.mpr h]

/-- The code point of a lower-case form that comes from a run. -/
theorem toNat_ofNat_shift {r : CaseRun} (hr : r ∈ lowerRuns) {code : Nat} (h : r.covers code) :
    (Char.ofNat (code + r.shift).toNat).toNat = (code + r.shift).toNat := by
  obtain ⟨hfirst, hlast, -⟩ := CaseRun.covers_iff.mp h
  have hvalid := isValidChar_lowerRuns r hr
  rw [CaseRun.lowerFirst, CaseRun.lowerLast] at hvalid
  refine toNat_ofNat_of_isValidChar ?_
  rw [Nat.isValidChar]
  omega

/-- A lower-case form is its own lower-case form. -/
theorem lowerChar_of_mem_lowerChar {c d : Char} (h : d ∈ lowerChar c) : lowerChar d = [d] := by
  obtain ⟨-, hc⟩ | ⟨r, hr, hcovers, hc⟩ | ⟨hc, -⟩ := lowerChar_cases c
  · rw [hc] at h
    obtain rfl | rfl := List.mem_pair.mp h <;> decide +kernel
  · rw [hc, List.mem_singleton] at h
    have hcode := toNat_ofNat_shift hr hcovers
    rw [← h] at hcode
    have hapart : ∀ s ∈ ⟨0x130, 0x130, 1, 0⟩ :: lowerRuns, ¬s.covers d.toNat := by
      intro s hs
      have hrs := List.all_eq_true.mp (List.all_eq_true.mp apart_lowerRuns r hr) s hs
      rw [hcode]
      exact CaseRun.not_covers_of_apart hrs (isValidChar_lowerRuns r hr).1 hcovers
    refine lowerChar_of_not_covers (fun hd => ?_) fun s hs => hapart s (List.mem_cons_of_mem _ hs)
    exact hapart _ List.mem_cons_self (CaseRun.covers_iff.mpr
      ⟨Nat.le_of_eq hd.symm, Nat.le_of_eq hd, Nat.mod_one _⟩)
  · rw [hc, List.mem_singleton] at h
    rw [h, hc]

theorem toLower_of_ascii (code : Nat) (h : code < 128) :
    (Char.ofNat code).toLower =
      if 0x41 ≤ code ∧ code ≤ 0x5A then Char.ofNat (code + 32) else Char.ofNat code := by
  revert code
  decide

/-- ASCII characters have their ASCII lower-case forms. -/
theorem lowerChar_of_ascii {c : Char} (h : c.toNat < 128) : lowerChar c = [c.toLower] := by
  have htoLower := toLower_of_ascii c.toNat h
  rw [Char.ofNat_toNat] at htoLower
  obtain ⟨hc, -⟩ | ⟨r, hr, hcovers, hc⟩ | ⟨hc, huncovered⟩ := lowerChar_cases c
  · omega
  · obtain ⟨hfirst, hlast, -⟩ := CaseRun.covers_iff.mp hcovers
    obtain rfl | ⟨hbeyond, -⟩ := ascii_lowerRuns r hr
    · rw [hc, htoLower, if_pos ⟨hfirst, hlast⟩]
      rfl
    · omega
  · have hletter : ¬(0x41 ≤ c.toNat ∧ c.toNat ≤ 0x5A) := fun hletter =>
      huncovered ⟨0x41, 0x5A, 1, 32⟩ List.mem_cons_self
        (CaseRun.covers_iff.mpr ⟨hletter.1, hletter.2, Nat.mod_one _⟩)
    rw [hc, htoLower, if_neg hletter]

/-! ### Characters in texts -/

/-- The characters that a character may become in a text. -/
def lowerForms (c : Char) : List Char := if c = 'Σ' then ['σ', 'ς'] else lowerChar c

theorem lowerChar_of_mem_lowerForms {c d : Char} (h : d ∈ lowerForms c) : lowerChar d = [d] := by
  rw [lowerForms] at h
  split at h
  · obtain rfl | rfl := List.mem_pair.mp h <;> decide +kernel
  · exact lowerChar_of_mem_lowerChar h

/-- Only ASCII characters become ASCII characters, other than `i` and `k`. -/
theorem ascii_of_mem_lowerForms {c d : Char} (h : d ∈ lowerForms c) (hd : d.toNat < 128)
    (hi : d ≠ 'i') (hk : d ≠ 'k') : c.toNat < 128 := by
  rw [lowerForms] at h
  split at h
  · obtain rfl | rfl := List.mem_pair.mp h <;> exact absurd hd (by decide)
  · obtain ⟨-, hc⟩ | ⟨r, hr, hcovers, hc⟩ | ⟨hc, -⟩ := lowerChar_cases c
    · rw [hc] at h
      obtain rfl | rfl := List.mem_pair.mp h
      · exact absurd rfl hi
      · exact absurd hd (by decide)
    · rw [hc, List.mem_singleton] at h
      have hcode := toNat_ofNat_shift hr hcovers
      rw [← h] at hcode
      obtain ⟨hfirst, hlast, -⟩ := CaseRun.covers_iff.mp hcovers
      obtain rfl | ⟨-, rfl | hbeyond⟩ := ascii_lowerRuns r hr
      · exact Nat.lt_of_le_of_lt hlast (by decide)
      · have hkelvin : c.toNat = 0x212A := Nat.le_antisymm hlast hfirst
        exact absurd (h.trans (by rw [hkelvin]; rfl)) hk
      · rw [CaseRun.lowerFirst] at hbeyond
        omega
    · rw [hc, List.mem_singleton] at h
      exact h ▸ hd

/-- The first character of a lowered text is a form of the first character. -/
theorem lowerFrom_cons (before : List Char) (c : Char) (rest : List Char) :
    ∃ form, form ≠ [] ∧ (∀ d ∈ form, d ∈ lowerForms c) ∧
      lowerFrom before (c :: rest) = form ++ lowerFrom (c :: before) rest := by
  refine ⟨_, ?_, ?_, rfl⟩
  · split
    · exact List.cons_ne_nil _ _
    · obtain ⟨-, hc⟩ | ⟨r, -, -, hc⟩ | ⟨hc, -⟩ := lowerChar_cases c <;>
        exact hc ▸ List.cons_ne_nil _ _
  · intro d hd
    rw [lowerForms]
    split at hd
    · next hc =>
      rw [if_pos hc, List.mem_singleton.mp hd]
      split
      · exact List.mem_pair.mpr (.inr rfl)
      · exact List.mem_pair.mpr (.inl rfl)
    · next hc => rwa [if_neg hc]

/-- Every character of a lowered text is a form of one of the text. -/
theorem exists_of_mem_lowerFrom {d : Char} : (before cs : List Char) → d ∈ lowerFrom before cs →
    ∃ c ∈ cs, d ∈ lowerForms c
  | _, [], h => absurd h List.not_mem_nil
  | before, c :: rest, h => by
    obtain ⟨form, -, hform, heq⟩ := lowerFrom_cons before c rest
    rw [heq, List.mem_append] at h
    obtain h | h := h
    · exact ⟨c, List.mem_cons_self, hform d h⟩
    · obtain ⟨c', hc', hd⟩ := exists_of_mem_lowerFrom (c :: before) rest h
      exact ⟨c', List.mem_cons_of_mem _ hc', hd⟩

/-- Every character of a text leaves a form in the lowered text. -/
theorem exists_mem_lowerFrom {c : Char} : (before cs : List Char) → c ∈ cs →
    ∃ d ∈ lowerForms c, d ∈ lowerFrom before cs
  | before, c' :: rest, h => by
    obtain ⟨form, hne, hform, heq⟩ := lowerFrom_cons before c' rest
    rw [heq]
    obtain rfl | h := List.mem_cons.mp h
    · obtain ⟨d, hd⟩ := List.exists_mem_of_ne_nil form hne
      exact ⟨d, hform d hd, List.mem_append_left _ hd⟩
    · obtain ⟨d, hd, hmem⟩ := exists_mem_lowerFrom (c' :: before) rest h
      exact ⟨d, hd, List.mem_append_right _ hmem⟩

/-- Characters that are their own lower-case forms stay as they are. -/
theorem lowerFrom_eq_self : (before cs : List Char) → (∀ c ∈ cs, lowerChar c = [c]) →
    lowerFrom before cs = cs
  | _, [], _ => rfl
  | before, c :: rest, h => by
    obtain ⟨hc, hrest⟩ := List.forall_mem_cons.mp h
    have hsigma : c ≠ 'Σ' := by
      rintro rfl
      exact absurd hc (by decide +kernel)
    rw [lowerFrom, if_neg hsigma, hc, lowerFrom_eq_self _ rest hrest, List.singleton_append]

theorem lowerFrom_of_ascii : (before cs : List Char) → (∀ c ∈ cs, c.toNat < 128) →
    lowerFrom before cs = cs.map Char.toLower
  | _, [], _ => rfl
  | before, c :: rest, h => by
    obtain ⟨hc, hrest⟩ := List.forall_mem_cons.mp h
    have hsigma : c ≠ 'Σ' := by
      rintro rfl
      exact absurd hc (by decide)
    rw [lowerFrom, if_neg hsigma, lowerChar_of_ascii hc, lowerFrom_of_ascii _ rest hrest,
      List.map_cons, List.singleton_append]

/-! ### Texts -/

/-- Lowering a text a second time changes nothing. -/
@[simp] theorem lower_lower (s : String) : lower (lower s) = lower s := by
  rw [lower, lower, String.toList_ofList]
  refine congrArg String.ofList (lowerFrom_eq_self [] _ fun d hd => ?_)
  obtain ⟨c, -, h⟩ := exists_of_mem_lowerFrom [] _ hd
  exact lowerChar_of_mem_lowerForms h

/-- Only the empty text becomes empty. -/
theorem lower_eq_empty_iff {s : String} : lower s = "" ↔ s = "" := by
  constructor
  · intro h
    rw [lower, String.ofList_eq_empty_iff] at h
    cases hs : s.toList with
    | nil => exact String.toList_eq_nil_iff.mp hs
    | cons c rest =>
      obtain ⟨form, hne, -, heq⟩ := lowerFrom_cons [] c rest
      rw [hs, heq] at h
      exact absurd (List.append_eq_nil_iff.mp h).1 hne
  · rintro rfl
    rfl

/-- On ASCII texts both ways of lowering agree. -/
theorem lower_eq_lowerAscii {s : String} (h : ∀ c ∈ s.toList, c.toNat < 128) :
    lower s = lowerAscii s := by
  rw [lower, lowerAscii, lowerFrom_of_ascii [] _ h]

theorem ascii_of_toLower {c : Char} (h : c.toLower.toNat < 128) : c.toNat < 128 := by
  by_contra hc
  have hupper : ¬(c.val ≥ 'A'.val ∧ c.val ≤ 'Z'.val) := fun hupper =>
    hc (Nat.lt_of_le_of_lt (UInt32.le_iff_toNat_le.mp hupper.2) (by decide))
  have hself : c.toLower = c := dif_neg hupper
  exact hc (hself ▸ h)

/-- A text is a given ASCII word without `i` and `k`, up to the case of ASCII letters, exactly if it
is that word up to the case of all characters. -/
theorem lowerAscii_eq_iff_lower_eq {word : String}
    (hword : ∀ d ∈ word.toList, d.toNat < 128 ∧ d ≠ 'i' ∧ d ≠ 'k') (s : String) :
    lowerAscii s = word ↔ lower s = word := by
  constructor
  · intro h
    rw [← h] at hword ⊢
    refine lower_eq_lowerAscii fun c hc => ?_
    rw [lowerAscii, String.toList_ofList] at hword
    exact ascii_of_toLower (hword _ (List.mem_map_of_mem hc)).1
  · intro h
    rw [← h] at hword ⊢
    refine (lower_eq_lowerAscii fun c hc => ?_).symm
    rw [lower, String.toList_ofList] at hword
    obtain ⟨d, hd, hmem⟩ := exists_mem_lowerFrom [] s.toList hc
    obtain ⟨hascii, hi, hk⟩ := hword d hmem
    exact ascii_of_mem_lowerForms hd hascii hi hk

end SearchBridge.Text
