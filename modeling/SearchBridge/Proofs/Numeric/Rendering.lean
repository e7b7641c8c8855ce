import Mathlib.Data.List.TakeWhile
import SearchBridge.Numeric.Literal
import SearchBridge.Proofs.Numeric.Shortest

/-!
# Written numbers tell doubles apart

A decimal is written as digits, perhaps a point and more digits, and perhaps an exponent. Whatever
the layout, the reader of number literals reads such a text back as a decimal of the same value. As
the shortest decimal of a double determines its magnitude and the sign comes first in the text, the
text of a finite double determines the double.

## Main definitions

* `Decimal.Written` : the parts of a written decimal.
* `Decimal.written` : the parts of a decimal in a layout.

## Main results

* `Literal.int?_toString` : the literal reader reads the text of an integer back.
* `Decimal.toList_render`, `Decimal.value_written` : the parts of a text, and their value.
* `Decimal.decimal?_render` : the literal reader reads the text of a decimal back.
* `Binary64.Finite.eq_of_render_eq` : the text of a finite double determines it.
-/

namespace SearchBridge

open Binary64 (Finite)

/-! ### Integers -/

namespace Literal

theorem isDigit_of_mem_toDigits {n : Nat} {c : Char} (h : c ∈ Nat.toDigits 10 n) : c.isDigit :=
  Nat.isDigit_of_mem_toDigits (by decide) (by decide) h

theorem toDigits_injective : Function.Injective (Nat.toDigits 10) := by
  intro m n h
  rw [← Nat.ofDigitChars_ten_toDigits (n := m), h, Nat.ofDigitChars_ten_toDigits]

theorem digit?_of_isDigit {c : Char} (h : c.isDigit) : digit? c = some (c.toNat - '0'.toNat) := by
  rw [digit?, if_pos h]
  rfl

theorem foldlM_digits {cs : List Char} (h : ∀ c ∈ cs, c.isDigit) (n : Nat) :
    cs.foldlM (fun n c => (digit? c).map (10 * n + ·)) n = some (Nat.ofDigitChars 10 cs n) := by
  induction cs generalizing n with
  | nil => rw [Nat.ofDigitChars_nil]; rfl
  | cons c cs ih =>
    obtain ⟨hc, hcs⟩ := List.forall_mem_cons.mp h
    rw [List.foldlM_cons, digit?_of_isDigit hc, Nat.ofDigitChars_cons]
    exact ih hcs _

/-- A nonempty list of digits is read as the number that it denotes. -/
theorem digits?_eq {cs : List Char} (hne : cs ≠ []) (h : ∀ c ∈ cs, c.isDigit) :
    digits? cs = some (Nat.ofDigitChars 10 cs 0) := by
  obtain ⟨c, cs, rfl⟩ := List.exists_cons_of_ne_nil hne
  exact foldlM_digits h 0

theorem digits?_toDigits (n : Nat) : digits? (Nat.toDigits 10 n) = some n := by
  rw [digits?_eq Nat.toDigits_ne_nil fun _ => isDigit_of_mem_toDigits,
    Nat.ofDigitChars_ten_toDigits]

/-- The text of an integer has digits and perhaps a sign. -/
theorem isDigit_or_minus_of_mem_toString {n : Int} {c : Char} (h : c ∈ (toString n).toList) :
    c.isDigit ∨ c = '-' := by
  rw [Int.toString_eq_repr, Int.repr_eq_if] at h
  split at h
  · rw [Nat.toList_repr] at h
    exact Or.inl (isDigit_of_mem_toDigits h)
  · rw [String.toList_append, Nat.toList_repr] at h
    rcases List.mem_append.mp h with hsign | hdigits
    · exact Or.inr (List.mem_singleton.mp hsign)
    · exact Or.inl (isDigit_of_mem_toDigits hdigits)

theorem sign_of_isDigit {cs : List Char} (h : ∀ c ∈ cs, c.isDigit) :
    sign cs = (false, cs) := by
  unfold sign
  split
  · exact absurd (h '-' (List.mem_cons_self ..)) (by decide)
  · exact absurd (h '+' (List.mem_cons_self ..)) (by decide)
  · rfl

/-- The literal reader reads an integer back. -/
theorem int?_toString (n : Int) : int? (toString n) = some n := by
  rw [int?, Int.toString_eq_repr, Int.repr_eq_if]
  by_cases h : 0 ≤ n
  · rw [if_pos h, Nat.toList_repr,
      sign_of_isDigit fun c hc => isDigit_of_mem_toDigits hc]
    simp [digits?_toDigits, h]
  · have hsign : sign ("-" ++ (-n).toNat.repr).toList =
        (true, Nat.toDigits 10 (-n).toNat) := by
      rw [String.toList_append, Nat.toList_repr]
      rfl
    rw [if_neg h, hsign]
    simp [digits?_toDigits]
    omega

end Literal

/-! ### Parts of a written decimal -/

namespace Decimal

/-- The characters of numbers. -/
def isNumeric (c : Char) : Bool := c.isDigit || c ∈ ['-', '+', '.', 'e']

theorem isNumeric_of_isDigit {c : Char} (h : c.isDigit) : isNumeric c := by
  rw [isNumeric, h, Bool.true_or]

/-- The parts of a written decimal: the digits before the point, those after it, and the number
after the exponent mark if there is one. -/
structure Written where
  whole : List Char
  fraction : List Char
  exponent : Option Int
  whole_ne_nil : whole ≠ []
  isDigit_of_mem : ∀ c ∈ whole ++ fraction, c.isDigit

namespace Written

/-- The point and the digits after it; no digits go without a point. -/
def pointed : List Char → List Char
  | [] => []
  | c :: cs => '.' :: c :: cs

/-- The exponent mark, the sign and the digits of an exponent. -/
def marked (e : Int) : List Char :=
  'e' :: (if e < 0 then '-' else '+') :: Nat.toDigits 10 e.natAbs

/-- What follows the digits of a written decimal. -/
def ending (w : Written) : List Char := w.exponent.elim [] marked

/-- The text of a written decimal. -/
def chars (w : Written) : List Char := w.whole ++ (pointed w.fraction ++ w.ending)

/-- The decimal that is written. -/
def decimal (w : Written) : Decimal where
  digits := Nat.ofDigitChars 10 (w.whole ++ w.fraction) 0
  exponent := w.exponent.getD 0 - w.fraction.length

variable (w : Written)

theorem exponent?_ending : Literal.exponent? w.ending = some (w.exponent.getD 0) := by
  cases hexponent : w.exponent with
  | none => simp only [ending, hexponent, Option.elim_none, Literal.exponent?, Option.getD_none]
  | some e =>
    simp only [ending, hexponent, Option.elim_some, marked, Literal.exponent?, Option.getD_some]
    rcases Int.lt_or_le e 0 with h | h
    · simp [h, Literal.sign, Literal.digits?_toDigits, abs_of_neg]
    · simp [Int.not_lt.mpr h, Literal.sign, Literal.digits?_toDigits, abs_of_nonneg h]

theorem takeWhile_ending : w.ending.takeWhile Char.isDigit = [] := by
  cases hexponent : w.exponent <;> rw [ending, hexponent] <;> rfl

theorem dropWhile_ending : w.ending.dropWhile Char.isDigit = w.ending := by
  cases hexponent : w.exponent <;> rw [ending, hexponent] <;> rfl

/-- The literal reader reads a written decimal. -/
theorem decimal?_chars : Literal.decimal? w.chars = some w.decimal := by
  have hdigits := w.isDigit_of_mem
  have hwhole (c : Char) (h : c ∈ w.whole) := hdigits c (List.mem_append_left _ h)
  have hfraction (c : Char) (h : c ∈ w.fraction) := hdigits c (List.mem_append_right _ h)
  have hread := Literal.digits?_eq (List.append_ne_nil_of_left_ne_nil w.whole_ne_nil w.fraction)
    hdigits
  have hexponent := w.exponent?_ending
  rw [Literal.decimal?, chars, List.takeWhile_append_of_pos hwhole,
    List.dropWhile_append_of_pos hwhole, decimal]
  cases hfr : w.fraction with
  | nil =>
    -- No point follows the whole digits, as the exponent mark is none.
    rw [hfr, List.append_nil] at hread
    rw [pointed, List.nil_append, takeWhile_ending, dropWhile_ending, List.append_nil]
    cases hexp : w.exponent with
    | none =>
      rw [ending, hexp, Option.elim_none] at hexponent ⊢
      simp [hread, hexponent]
    | some e =>
      rw [ending, hexp, Option.elim_some, marked] at hexponent ⊢
      simp [hread, hexponent]
  | cons c cs =>
    rw [hfr] at hread hfraction
    have hpoint (rest : List Char) : ('.' :: rest).takeWhile Char.isDigit = [] := rfl
    have hpoint' (rest : List Char) : ('.' :: rest).dropWhile Char.isDigit = '.' :: rest := rfl
    rw [pointed, List.cons_append, hpoint, hpoint', List.append_nil]
    simp only [List.takeWhile_append_of_pos hfraction, List.dropWhile_append_of_pos hfraction,
      takeWhile_ending, dropWhile_ending, List.append_nil, hread, hexponent]
    rfl

theorem pointed_of_ne_nil {cs : List Char} (h : cs ≠ []) : pointed cs = '.' :: cs := by
  obtain ⟨c, cs, rfl⟩ := List.exists_cons_of_ne_nil h
  rfl

theorem isNumeric_of_mem_chars {c : Char} (h : c ∈ w.chars) : isNumeric c := by
  rw [chars, List.mem_append, List.mem_append] at h
  rcases h with hwhole | hfraction | hexponent
  · exact isNumeric_of_isDigit (w.isDigit_of_mem c (List.mem_append_left _ hwhole))
  · cases hfr : w.fraction with
    | nil => rw [hfr] at hfraction; cases hfraction
    | cons d ds =>
      rw [hfr, pointed, ← hfr] at hfraction
      rcases List.mem_cons.mp hfraction with rfl | hfraction
      · rfl
      · exact isNumeric_of_isDigit (w.isDigit_of_mem c (List.mem_append_right _ hfraction))
  · cases hexp : w.exponent with
    | none => rw [ending, hexp] at hexponent; cases hexponent
    | some e =>
      rw [ending, hexp, Option.elim_some, marked] at hexponent
      rcases List.mem_cons.mp hexponent with rfl | hexponent
      · rfl
      · rcases List.mem_cons.mp hexponent with rfl | hdigits
        · split <;> rfl
        · exact isNumeric_of_isDigit (Literal.isDigit_of_mem_toDigits hdigits)

/-- A fraction shows by its point and an exponent by its mark. -/
theorem exists_mark_mem_chars (h : w.fraction ≠ [] ∨ w.exponent ≠ none) :
    ∃ c ∈ w.chars, c = '.' ∨ c = 'e' := by
  rcases h with hfraction | hexponent
  · refine ⟨'.', ?_, Or.inl rfl⟩
    rw [chars, pointed_of_ne_nil hfraction]
    simp
  · obtain ⟨e, he⟩ := Option.ne_none_iff_exists'.mp hexponent
    refine ⟨'e', ?_, Or.inr rfl⟩
    rw [chars, ending, he, Option.elim_some, marked]
    simp

theorem isDigit_of_mem_zeros {n : Nat} {c : Char} (h : c ∈ List.replicate n '0') : c.isDigit := by
  rw [List.eq_of_mem_replicate h]
  rfl

/-- A number below one: zeros stand between the point and the digits. -/
def below (n zeros : Nat) : Written where
  whole := ['0']
  fraction := List.replicate zeros '0' ++ Nat.toDigits 10 n
  exponent := none
  whole_ne_nil := List.cons_ne_nil _ _
  isDigit_of_mem c hc := by
    rcases List.mem_append.mp hc with hwhole | hfraction
    · rw [List.mem_singleton.mp hwhole]
      rfl
    · exact (List.mem_append.mp hfraction).elim isDigit_of_mem_zeros Literal.isDigit_of_mem_toDigits

/-- A whole number: zeros follow the digits, and perhaps a fraction that is zero. -/
def padded (n zeros : Nat) (wholeFraction : Bool) : Written where
  whole := Nat.toDigits 10 n ++ List.replicate zeros '0'
  fraction := if wholeFraction then ['0'] else []
  exponent := none
  whole_ne_nil := List.append_ne_nil_of_left_ne_nil Nat.toDigits_ne_nil _
  isDigit_of_mem c hc := by
    rcases List.mem_append.mp hc with hwhole | hfraction
    · exact (List.mem_append.mp hwhole).elim Literal.isDigit_of_mem_toDigits isDigit_of_mem_zeros
    · cases wholeFraction with
      | true => rw [List.mem_singleton.mp hfraction]; rfl
      | false => cases hfraction

/-- A number whose point stands after the first digit and some more, if any follow. -/
def split (n more : Nat) (exponent : Option Int) : Written where
  whole := (Nat.toDigits 10 n).take (more + 1)
  fraction := (Nat.toDigits 10 n).drop (more + 1)
  exponent := exponent
  whole_ne_nil := by
    rw [Ne, List.take_eq_nil_iff, not_or]
    exact ⟨Nat.succ_ne_zero more, Nat.toDigits_ne_nil⟩
  isDigit_of_mem c hc := by
    rw [List.take_append_drop] at hc
    exact Literal.isDigit_of_mem_toDigits hc

theorem pointed_drop (cs : List Char) (n : Nat) :
    pointed (cs.drop n) = if cs.length ≤ n then [] else '.' :: cs.drop n := by
  split
  · rename_i h
    rw [List.drop_eq_nil_of_le h, pointed]
  · rename_i h
    exact pointed_of_ne_nil fun hnil => h (List.drop_eq_nil_iff.mp hnil)

theorem decimal_below (n zeros : Nat) :
    (below n zeros).decimal = ⟨n, -(zeros + (Nat.toDigits 10 n).length : ℕ)⟩ := by
  simp [below, decimal, Nat.ofDigitChars_cons, Nat.ofDigitChars_append]

theorem value_padded (n zeros : Nat) (wholeFraction : Bool) :
    (padded n zeros wholeFraction).decimal.value = n * 10 ^ zeros := by
  cases wholeFraction
  · simp [padded, decimal, value, Nat.ofDigitChars_append, mul_comm]
  · simp [padded, decimal, value, Nat.ofDigitChars_append, Nat.ofDigitChars_cons, mul_comm]
    ring

theorem decimal_split (n more : Nat) (exponent : Option Int) :
    (split n more exponent).decimal =
      ⟨n, exponent.getD 0 - ((Nat.toDigits 10 n).length - (more + 1) : ℕ)⟩ := by
  simp [split, decimal]

end Written

/-! ### Rendering -/

/-- The parts of the text of a decimal in a layout. -/
def written (layout : Layout) (d : Decimal) : Written :=
  let count := (Nat.toDigits 10 d.digits).length
  let first := d.exponent + count - 1
  if layout.positional first then
    if first < 0 then .below d.digits (-first - 1).toNat
    else if count ≤ first.toNat + 1 then
      .padded d.digits (first.toNat + 1 - count) layout.wholeFraction
    else .split d.digits first.toNat none
  else .split d.digits 0 (some first)

variable (layout : Layout) (d : Decimal)

/-- The text of a decimal is that of its parts. -/
theorem toList_render : (d.render layout).toList = (written layout d).chars := by
  simp only [render, written]
  split
  · split
    · simp [Written.below, Written.chars, Written.ending, Written.pointed_of_ne_nil, zeros]
    · split
      · cases layout.wholeFraction <;>
          simp [Written.padded, Written.chars, Written.ending, Written.pointed, zeros]
      · rename_i hcount
        simp only [Written.split, Written.chars, Written.pointed_drop, if_neg hcount]
        simp [Written.ending]
  · simp only [Written.split, Written.chars, Written.ending, Written.pointed_drop]
    split <;> split <;> simp [*, Written.marked]

/-- The parts of a decimal in a layout keep its value. -/
theorem value_written : (written layout d).decimal.value = d.value := by
  have hpos : 0 < (Nat.toDigits 10 d.digits).length := Nat.length_toDigits_pos
  simp only [written]
  split
  · split
    · rw [Written.decimal_below]
      congr 2
      omega
    · split
      · rename_i hfirst hcount
        obtain ⟨zeros, hzeros⟩ := Int.eq_ofNat_of_zero_le (show 0 ≤ d.exponent by omega)
        rw [Written.value_padded, value, hzeros, zpow_natCast]
        congr 2
        omega
      · rw [Written.decimal_split, Option.getD_none]
        congr 2
        omega
  · rw [Written.decimal_split, Option.getD_some]
    congr 2
    omega

/-- In a layout that keeps the fraction of whole numbers, every text has a fraction or an
exponent. -/
theorem fraction_or_exponent_written (h : layout.wholeFraction = true) :
    (written layout d).fraction ≠ [] ∨ (written layout d).exponent ≠ none := by
  simp only [written]
  split
  · left
    split
    · exact List.append_ne_nil_of_right_ne_nil _ Nat.toDigits_ne_nil
    · split
      · rw [h]
        exact List.cons_ne_nil _ _
      · rename_i hcount
        exact fun hnil => hcount (List.drop_eq_nil_iff.mp hnil)
  · exact Or.inr (Option.some_ne_none _)

/-- **The literal reader reads a rendered decimal back** with its value. -/
theorem decimal?_render :
    (Literal.decimal? (d.render layout).toList).map value = some d.value := by
  rw [toList_render, Written.decimal?_chars, Option.map_some, value_written]

/-- The text of a decimal determines its value, in whichever layouts decimals are written. -/
theorem value_eq_of_render_eq {layout layout' : Layout} {d d' : Decimal}
    (h : d.render layout = d'.render layout') : d.value = d'.value := by
  have hread := decimal?_render layout' d'
  rw [← h, decimal?_render] at hread
  exact Option.some.inj hread

/-- The text of a decimal has no sign. -/
theorem render_ne_minus (s : String) : d.render layout ≠ "-" ++ s := by
  intro h
  have hread := decimal?_render layout d
  rw [h, String.toList_append] at hread
  cases hread

end Decimal

/-! ### Texts of doubles -/

namespace Binary64.Finite

variable {layout layout' : Decimal.Layout} {x y : Finite}

/-- **The text of a finite double determines it.** -/
theorem eq_of_render_eq (h : x.render layout = y.render layout') : x = y := by
  have hsame : x.negative = y.negative ∧ (Decimal.shortest layout.tie x).render layout =
      (Decimal.shortest layout'.tie y).render layout' := by
    rw [render, render] at h
    cases hx : x.negative <;> cases hy : y.negative <;>
      simp only [hx, hy, Bool.false_eq_true, if_true, if_false, String.empty_append] at h
    · exact ⟨rfl, h⟩
    · exact absurd h (Decimal.render_ne_minus _ _ _)
    · exact absurd h.symm (Decimal.render_ne_minus _ _ _)
    · exact ⟨rfl, (String.append_right_inj _).mp h⟩
  obtain ⟨hsignificand, hscale⟩ :=
    Decimal.shortest_inj layout.tie layout'.tie (Decimal.value_eq_of_render_eq hsame.2)
  cases x
  cases y
  cases hsame.1
  cases hsignificand
  cases hscale
  rfl

/-- Every character of the text of a double is one of numbers. -/
theorem isNumeric_of_mem_render {c : Char} (h : c ∈ (x.render layout).toList) :
    Decimal.isNumeric c := by
  rw [render, String.toList_append, List.mem_append, Decimal.toList_render] at h
  rcases h with hsign | hdecimal
  · cases hx : x.negative <;> rw [hx] at hsign
    · cases hsign
    · rw [List.mem_singleton.mp hsign]
      rfl
  · exact Decimal.Written.isNumeric_of_mem_chars _ hdecimal

/-- In a layout that keeps the fraction of whole numbers, a point or an exponent mark tells the
text of a double from that of an integer. -/
theorem exists_mark_mem_render (h : layout.wholeFraction = true) :
    ∃ c ∈ (x.render layout).toList, c = '.' ∨ c = 'e' := by
  obtain ⟨c, hc, hmark⟩ := Decimal.Written.exists_mark_mem_chars _
    (Decimal.fraction_or_exponent_written layout (Decimal.shortest layout.tie x) h)
  refine ⟨c, ?_, hmark⟩
  rw [render, String.toList_append, Decimal.toList_render]
  exact List.mem_append_right _ hc

end Binary64.Finite

end SearchBridge
