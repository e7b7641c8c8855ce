import SearchBridge.Json.Reader
import SearchBridge.Json.Writer
import SearchBridge.Proofs.Numeric.Rendering

/-!
# Written values can be told apart

The compact form of a JSON value determines the value, repeated keys and the order of entries
included. A value's text shows by its first character what kind of value it is, and where it ends:
a string at its closing quote, which the reader of strings finds, a number before the first
character that no number has, an array or object at its closing bracket. So texts of values can
follow one another between commas and still be told apart.

## Main definitions

* `Json.Stops` : what may follow a value in a text.
* `Json.Delimited` : the text of a part tells it from all others, wherever it is followed so.

## Main results

* `Json.readQuoted_quote` : the reader of strings reads a quoted text back.
* `Json.Number.eq_of_text_eq` : the text of a number determines it.
* `Json.delimited_chars` : the text of a value ends by itself.
* `Json.compact_injective` : the text of a value determines it.
-/

namespace SearchBridge

/-! ### Escaped characters -/

theorem Hex.value?_digitChar : ∀ d < 16, Hex.value? (Nat.digitChar d) = some d := by
  decide

theorem Utf8.hasBytes_of_le_length {n : Nat} {l : List Utf8.Glyph} (h : n ≤ l.length) :
    Utf8.hasBytes n l = true := by
  induction l generalizing n with
  | nil =>
    obtain rfl : n = 0 := Nat.le_zero.mp h
    rw [Utf8.hasBytes]
  | cons u l ih =>
    cases n with
    | zero => rw [Utf8.hasBytes]
    | succ n =>
      have hsize : 0 < Utf8.glyphSize u := by
        cases u with
        | none => exact Nat.one_pos
        | some c => exact c.utf8Size_pos
      rw [Utf8.hasBytes]
      refine ih ?_
      rw [List.length_cons] at h
      omega

namespace Json

/-- The reader of strings takes a control character's code for the character. -/
theorem run_code (c : Char) (h : c.toNat < 32) (out : List Char) (rest : List Utf8.Glyph) :
    Quoted.run .plain out true (("\\u00" ++ hexPair c.toNat).toList.map some ++ rest) =
      Quoted.run .plain (c :: out) true rest := by
  have hhigh := Hex.value?_digitChar (c.toNat / 16) (by omega)
  have hlow := Hex.value?_digitChar (c.toNat % 16) (by omega)
  have hzero : Hex.value? '0' = some 0 := rfl
  have hroom (x y : Char) : Utf8.hasBytes 4 (some '0' :: some '0' :: some x :: some y :: rest) =
      true := Utf8.hasBytes_of_le_length (by simp)
  have hvalue : 16 * (c.toNat / 16) + c.toNat % 16 = c.toNat := Nat.div_add_mod _ _
  have hend : Quoted.stepCode none c.toNat = (false, .go .plain [c]) := by
    rw [Quoted.stepCode, Char.ofNat_toNat]
    simp only [decide_eq_true_eq]
    rw [if_neg (by omega), if_neg (by omega)]
  simp [hexPair, Quoted.run, Quoted.step, Quoted.stepPlain, Quoted.stepEscape, hhigh, hlow, hzero,
    hroom, hvalue, hend]

/-- The reader of strings takes an escaped character for the character. -/
theorem run_escaped (c : Char) (out : List Char) (rest : List Utf8.Glyph) :
    Quoted.run .plain out true ((escaped c).toList.map some ++ rest) =
      Quoted.run .plain (c :: out) true rest := by
  have hcode (n : Nat) (h : c.toNat = n) : c = Char.ofNat n := by rw [← h, Char.ofNat_toNat]
  rw [escaped]
  split
  · subst c; rfl
  split
  · subst c; rfl
  split
  · subst c; rfl
  split
  · subst c; rfl
  split
  · subst c; rfl
  split
  · obtain rfl := hcode 8 ‹_›; rfl
  split
  · obtain rfl := hcode 12 ‹_›; rfl
  split
  · exact run_code c ‹_› out rest
  · rename_i hquote hbackslash _ _ _ _ _ hplain
    simp [Quoted.run, Quoted.step, Quoted.stepPlain, hquote, hbackslash, hplain]

/-- The characters between the quotes of a quoted text. -/
def escapedChars (s : String) : List Char := s.toList.flatMap fun c => (escaped c).toList

theorem toList_quote (s : String) : (quote s).toList = '"' :: (escapedChars s ++ ['"']) := by
  have hfold (cs : List Char) (out : String) :
      (cs.foldl (fun out c => out ++ escaped c) out).toList =
        out.toList ++ cs.flatMap fun c => (escaped c).toList := by
    induction cs generalizing out with
    | nil => simp
    | cons c cs ih => simp [ih]
  rw [quote, String.toList_append, String.toList_append, String.foldl_eq_foldl_toList, hfold]
  simp [escapedChars]

theorem run_flatMap_escaped (cs out : List Char) (rest : List Utf8.Glyph) :
    Quoted.run .plain out true ((cs.flatMap fun c => (escaped c).toList).map some ++ rest) =
      Quoted.run .plain (cs.reverse ++ out) true rest := by
  induction cs generalizing out with
  | nil => rfl
  | cons c cs ih =>
    rw [List.flatMap_cons, List.map_append, List.append_assoc, run_escaped, ih,
      List.reverse_cons, List.append_assoc, List.singleton_append]

/-- **The reader of strings reads a quoted text back**, and stops after its closing quote. -/
theorem readQuoted_quote (s : String) (rest : List Char) :
    readQuoted ((escapedChars s ++ '"' :: rest).map some) =
      ⟨s.toList.reverse, true, .ok (rest.map some)⟩ := by
  rw [readQuoted, escapedChars, List.map_append, run_flatMap_escaped, List.append_nil]
  rfl

/-- A quoted text ends by itself. -/
theorem quote_append_inj {s t : String} {rest rest' : List Char}
    (h : (quote s).toList ++ rest = (quote t).toList ++ rest') : s = t ∧ rest = rest' := by
  simp only [toList_quote, List.cons_append, List.append_assoc, List.nil_append, List.cons.injEq,
    true_and] at h
  have hs := readQuoted_quote s rest
  rw [h, readQuoted_quote] at hs
  injection hs with hreversed _ hrest
  rw [List.reverse_inj, String.toList_inj] at hreversed
  injection hrest with hrest
  exact ⟨hreversed.symm, (List.map_injective_iff.mpr (Option.some_injective _) hrest).symm⟩

/-! ### Numbers -/

open Decimal (isNumeric)

/-- Every character of the text of a number is one of numbers. -/
theorem Number.isNumeric_of_mem_text {n : Number} {c : Char} (h : c ∈ n.text.toList) :
    isNumeric c := by
  cases n with
  | integer n =>
    rcases Literal.isDigit_or_minus_of_mem_toString h with hdigit | rfl
    · exact Decimal.isNumeric_of_isDigit hdigit
    · rfl
  | float x => exact Binary64.Finite.isNumeric_of_mem_render h

/-- The text of a double has a point or an exponent mark. -/
theorem exists_mark_mem_render (x : Binary64.Finite) :
    ∃ c ∈ (x.render numberLayout).toList, c = '.' ∨ c = 'e' :=
  x.exists_mark_mem_render rfl

theorem render_ne_toString (x : Binary64.Finite) (n : Int) :
    x.render numberLayout ≠ toString n := by
  intro h
  obtain ⟨c, hc, hmark⟩ := exists_mark_mem_render x
  rw [h] at hc
  rcases Literal.isDigit_or_minus_of_mem_toString hc with hdigit | hminus
  · rcases hmark with rfl | rfl <;> cases hdigit
  · rcases hmark with rfl | rfl <;> cases hminus

/-- **The text of a number determines it.** -/
theorem Number.eq_of_text_eq {m n : Number} (h : m.text = n.text) : m = n := by
  cases m with
  | integer m =>
    cases n with
    | integer n =>
      have hread := Literal.int?_toString m
      rw [show toString m = toString n from h, Literal.int?_toString] at hread
      rw [Option.some.inj hread]
    | float y => exact absurd h.symm (render_ne_toString y m)
  | float x =>
    cases n with
    | integer n => exact absurd h (render_ne_toString x n)
    | float y => rw [Binary64.Finite.eq_of_render_eq h]

theorem Number.text_ne_empty (n : Number) : n.text ≠ "" := by
  cases n with
  | integer n =>
    intro h
    have hread := Literal.int?_toString n
    rw [show toString n = "" from h] at hread
    cases hread
  | float x =>
    intro h
    obtain ⟨c, hc, -⟩ := exists_mark_mem_render x
    rw [show x.render numberLayout = "" from h] at hc
    cases hc

/-- What may follow a value in a text: nothing, a comma or a closing bracket. -/
def Stops (rest : List Char) : Prop := ∀ c ∈ rest.head?, c = ',' ∨ c = ']' ∨ c = '\x7d'

/-- No number goes on with what may follow a value. -/
theorem Stops.takeWhile_isNumeric {rest : List Char} (h : Stops rest) :
    rest.takeWhile isNumeric = [] := by
  cases rest with
  | nil => rfl
  | cons c cs =>
    have hc : isNumeric c = false := by rcases h c rfl with rfl | rfl | rfl <;> rfl
    rw [List.takeWhile_cons, hc]
    rfl

/-- The text of a number ends before the first character that no number has. -/
theorem Number.text_append_inj {m n : Number} {rest rest' : List Char} (hrest : Stops rest)
    (hrest' : Stops rest') (h : m.text.toList ++ rest = n.text.toList ++ rest') :
    m = n ∧ rest = rest' := by
  have htake (n : Number) {rest : List Char} (hrest : Stops rest) :
      (n.text.toList ++ rest).takeWhile isNumeric = n.text.toList := by
    rw [List.takeWhile_append_of_pos fun c hc => isNumeric_of_mem_text hc,
      hrest.takeWhile_isNumeric, List.append_nil]
  have htext := congrArg (List.takeWhile isNumeric) h
  rw [htake m hrest, htake n hrest', String.toList_inj] at htext
  obtain rfl := eq_of_text_eq htext
  exact ⟨rfl, List.append_cancel_left h⟩

/-! ### Values -/

/-- The text of a part tells it from all others, wherever it is followed as a value may be. -/
def Delimited {α : Type} (text : α → List Char) (x : α) : Prop :=
  ∀ y rest rest', Stops rest → Stops rest' → text x ++ rest = text y ++ rest' → x = y ∧ rest = rest'

section Sequences

variable {α : Type} (text : α → List Char)

/-- The parts after the first one, each after a comma. -/
def tail : List α → List Char
  | [] => []
  | x :: xs => ',' :: (text x ++ tail xs)

/-- Parts with commas between them. -/
def joined : List α → List Char
  | [] => []
  | x :: xs => text x ++ tail text xs

variable {text} {closing : Char} (hclosing : closing = ']' ∨ closing = '\x7d')
  {xs ys : List α} {rest rest' : List Char}

include hclosing in
theorem stops_tail (xs : List α) (rest : List Char) : Stops (tail text xs ++ closing :: rest) := by
  cases xs with
  | nil =>
    intro c hc
    rw [← Option.mem_some_iff.mp hc]
    exact Or.inr hclosing
  | cons x xs =>
    intro c hc
    exact Or.inl (Option.mem_some_iff.mp hc).symm

include hclosing in
/-- The parts after the first one end before the closing bracket. -/
theorem tail_append_inj (hxs : ∀ x ∈ xs, Delimited text x)
    (h : tail text xs ++ closing :: rest = tail text ys ++ closing :: rest') :
    xs = ys ∧ rest = rest' := by
  have hcomma : closing ≠ ',' := by rcases hclosing with rfl | rfl <;> decide
  induction xs generalizing ys with
  | nil =>
    cases ys with
    | nil => exact ⟨rfl, List.tail_eq_of_cons_eq h⟩
    | cons y ys => exact absurd (List.head_eq_of_cons_eq h) hcomma
  | cons x xs ih =>
    cases ys with
    | nil => exact absurd (List.head_eq_of_cons_eq h).symm hcomma
    | cons y ys =>
      obtain ⟨hx, hxs⟩ := List.forall_mem_cons.mp hxs
      rw [tail, tail, List.cons_append, List.cons_append, List.append_assoc, List.append_assoc] at h
      obtain ⟨rfl, htail⟩ := hx y _ _ (stops_tail hclosing xs rest) (stops_tail hclosing ys rest')
        (List.tail_eq_of_cons_eq h)
      obtain ⟨rfl, hrest⟩ := ih hxs htail
      exact ⟨rfl, hrest⟩

include hclosing in
/-- Parts with commas between them end before the closing bracket, as no part begins with it. -/
theorem joined_append_inj (hstart : ∀ x rest rest', text x ++ rest ≠ closing :: rest')
    (hxs : ∀ x ∈ xs, Delimited text x)
    (h : joined text xs ++ closing :: rest = joined text ys ++ closing :: rest') :
    xs = ys ∧ rest = rest' := by
  cases xs with
  | nil =>
    cases ys with
    | nil => exact ⟨rfl, List.tail_eq_of_cons_eq h⟩
    | cons y ys =>
      rw [joined, joined, List.append_assoc] at h
      exact absurd h.symm (hstart _ _ _)
  | cons x xs =>
    cases ys with
    | nil =>
      rw [joined, joined, List.append_assoc] at h
      exact absurd h (hstart _ _ _)
    | cons y ys =>
      obtain ⟨hx, hxs⟩ := List.forall_mem_cons.mp hxs
      rw [joined, joined, List.append_assoc, List.append_assoc] at h
      obtain ⟨rfl, htail⟩ := hx y _ _ (stops_tail hclosing xs rest) (stops_tail hclosing ys rest')
        h
      obtain ⟨rfl, hrest⟩ := tail_append_inj hclosing hxs htail
      exact ⟨rfl, hrest⟩

end Sequences

/-- The text of a value. -/
def chars (v : Json) : List Char := v.compact.toList

/-- The text of an entry. -/
def entryChars (e : String × Json) : List Char := (quote e.1).toList ++ ':' :: e.2.chars

theorem toList_intercalate_comma (parts : List String) :
    (",".intercalate parts).toList = joined String.toList parts := by
  have htail (part : String) (parts : List String) :
      (",".intercalate (part :: parts)).toList = part.toList ++ tail String.toList parts := by
    induction parts generalizing part with
    | nil => rw [String.intercalate_singleton, tail, List.append_nil]
    | cons next parts ih =>
      rw [String.intercalate_cons_cons, String.toList_append, String.toList_append, ih, tail,
        List.append_assoc]
      rfl
  cases parts with
  | nil => rw [String.intercalate_nil]; rfl
  | cons part parts => exact htail part parts

theorem joined_map {α β : Type} (f : α → β) (text : β → List Char) (xs : List α) :
    joined text (xs.map f) = joined (fun x => text (f x)) xs := by
  have htail (xs : List α) : tail text (xs.map f) = tail (fun x => text (f x)) xs := by
    induction xs with
    | nil => rfl
    | cons x xs ih => rw [List.map_cons, tail, tail, ih]
  cases xs with
  | nil => rfl
  | cons x xs => rw [List.map_cons, joined, joined, htail]

theorem compactItems_eq_map (items : List Json) : compactItems items = items.map compact := by
  induction items with
  | nil => rfl
  | cons v rest ih => rw [compactItems, ih, List.map_cons]

theorem compactEntries_eq_map (entries : List (String × Json)) :
    compactEntries entries = entries.map fun e => quote e.1 ++ ":" ++ e.2.compact := by
  induction entries with
  | nil => rfl
  | cons e rest ih => rw [compactEntries, ih, List.map_cons]

theorem chars_array (items : List Json) :
    (Json.array items).chars = '[' :: (joined chars items ++ [']']) := by
  rw [chars, compact, compactItems_eq_map, String.toList_append, String.toList_append,
    toList_intercalate_comma, joined_map]
  rfl

theorem chars_object (entries : List (String × Json)) :
    (Json.object entries).chars = '\x7b' :: (joined entryChars entries ++ ['\x7d']) := by
  have hentry : (fun e : String × Json => (quote e.1 ++ ":" ++ e.2.compact).toList) =
      entryChars := by
    funext e
    rw [String.toList_append, String.toList_append, List.append_assoc]
    rfl
  rw [chars, compact, compactEntries_eq_map, String.toList_append, String.toList_append,
    toList_intercalate_comma, joined_map, hentry]
  rfl

/-- The kinds of values that a text shows by its first character. -/
inductive Kind where
  | null
  | bool (value : Bool)
  | number
  | string
  | array
  | object

/-- The kind of a value. -/
def kind : Json → Kind
  | .null => .null
  | .bool b => .bool b
  | .number _ => .number
  | .string _ => .string
  | .array _ => .array
  | .object _ => .object

/-- The kind of value that begins with a character. -/
def kindOfLead? (c : Char) : Option Kind :=
  if c = 'n' then some .null
  else if c = 't' then some (.bool true)
  else if c = 'f' then some (.bool false)
  else if c = '"' then some .string
  else if c = '[' then some .array
  else if c = '\x7b' then some .object
  else if Decimal.isNumeric c then some .number
  else none

theorem kindOfLead?_of_isNumeric {c : Char} (h : isNumeric c) : kindOfLead? c = some .number := by
  have hne {d : Char} (hd : isNumeric d = false) : c ≠ d := by
    rintro rfl
    rw [hd] at h
    exact Bool.false_ne_true h
  rw [kindOfLead?, if_neg (hne rfl), if_neg (hne rfl), if_neg (hne rfl), if_neg (hne rfl),
    if_neg (hne rfl), if_neg (hne rfl), if_pos h]

/-- The first character of a value's text shows its kind. -/
theorem exists_lead (v : Json) : ∃ c cs, v.chars = c :: cs ∧ kindOfLead? c = some v.kind := by
  cases v with
  | null => exact ⟨_, _, rfl, rfl⟩
  | bool b => cases b <;> exact ⟨_, _, rfl, rfl⟩
  | number n =>
    have hne : n.text.toList ≠ [] := fun h => n.text_ne_empty (String.toList_eq_nil_iff.mp h)
    obtain ⟨c, cs, hcs⟩ := List.exists_cons_of_ne_nil hne
    have hc : isNumeric c := Number.isNumeric_of_mem_text (hcs ▸ List.mem_cons_self ..)
    exact ⟨c, cs, hcs, kindOfLead?_of_isNumeric hc⟩
  | string s => exact ⟨'"', _, toList_quote s, rfl⟩
  | array items => exact ⟨'[', _, chars_array items, rfl⟩
  | object entries => exact ⟨'\x7b', _, chars_object entries, rfl⟩

theorem kind_eq_of_append_eq {v w : Json} {rest rest' : List Char}
    (h : v.chars ++ rest = w.chars ++ rest') : v.kind = w.kind := by
  obtain ⟨c, cs, hv, hc⟩ := exists_lead v
  obtain ⟨d, ds, hw, hd⟩ := exists_lead w
  rw [hv, hw] at h
  rw [List.head_eq_of_cons_eq h, hd] at hc
  exact (Option.some.inj hc).symm

theorem chars_append_ne {closing : Char} (hclosing : closing = ']' ∨ closing = '\x7d') (v : Json)
    (rest rest' : List Char) : v.chars ++ rest ≠ closing :: rest' := by
  obtain ⟨c, cs, hv, hc⟩ := exists_lead v
  intro h
  rw [hv] at h
  rw [List.head_eq_of_cons_eq h] at hc
  rcases hclosing with rfl | rfl <;> cases hc

theorem entryChars_append_ne (e : String × Json)
    (rest rest' : List Char) : entryChars e ++ rest ≠ '\x7d' :: rest' := by
  rw [entryChars, toList_quote]
  intro h
  exact absurd (List.head_eq_of_cons_eq h) (by decide)

mutual

/-- **The text of a value ends by itself**, and tells the value from all others. -/
theorem delimited_chars : (v : Json) → Delimited chars v
  | .null => fun w r r' _ _ h => by
    cases w with
    | null => exact ⟨rfl, List.append_cancel_left h⟩
    | _ => cases kind_eq_of_append_eq h
  | .bool b => fun w r r' _ _ h => by
    cases w with
    | bool b' =>
      cases kind_eq_of_append_eq h
      exact ⟨rfl, List.append_cancel_left h⟩
    | _ => cases kind_eq_of_append_eq h
  | .number n => fun w r r' hr hr' h => by
    cases w with
    | number m =>
      obtain ⟨rfl, hrest⟩ := Number.text_append_inj hr hr' h
      exact ⟨rfl, hrest⟩
    | _ => cases kind_eq_of_append_eq h
  | .string s => fun w r r' _ _ h => by
    cases w with
    | string t =>
      obtain ⟨rfl, hrest⟩ := quote_append_inj h
      exact ⟨rfl, hrest⟩
    | _ => cases kind_eq_of_append_eq h
  | .array items => fun w r r' _ _ h => by
    cases w with
    | array items' =>
      rw [chars_array, chars_array, List.cons_append, List.cons_append, List.append_assoc,
        List.append_assoc] at h
      obtain ⟨rfl, hrest⟩ := joined_append_inj (Or.inl rfl) (chars_append_ne (Or.inl rfl))
        (delimited_items items) (List.tail_eq_of_cons_eq h)
      exact ⟨rfl, hrest⟩
    | _ => cases kind_eq_of_append_eq h
  | .object entries => fun w r r' _ _ h => by
    cases w with
    | object entries' =>
      rw [chars_object, chars_object, List.cons_append, List.cons_append, List.append_assoc,
        List.append_assoc] at h
      obtain ⟨rfl, hrest⟩ := joined_append_inj (Or.inr rfl) entryChars_append_ne
        (delimited_entries entries) (List.tail_eq_of_cons_eq h)
      exact ⟨rfl, hrest⟩
    | _ => cases kind_eq_of_append_eq h

theorem delimited_items : (items : List Json) → ∀ v ∈ items, Delimited chars v
  | [] => List.forall_mem_nil _
  | v :: rest => List.forall_mem_cons.mpr ⟨delimited_chars v, delimited_items rest⟩

theorem delimited_entries : (entries : List (String × Json)) →
    ∀ e ∈ entries, Delimited entryChars e
  | [] => List.forall_mem_nil _
  | (k, v) :: rest => by
    refine List.forall_mem_cons.mpr ⟨fun e r r' hr hr' h => ?_, delimited_entries rest⟩
    rw [entryChars, entryChars, List.append_assoc, List.append_assoc] at h
    obtain ⟨hkey, hvalue⟩ := quote_append_inj h
    obtain ⟨hv, hrest⟩ := delimited_chars v e.2 r r' hr hr' (List.tail_eq_of_cons_eq hvalue)
    exact ⟨Prod.ext hkey hv, hrest⟩

end

/-- **The text of a value determines it.** -/
theorem compact_injective : Function.Injective compact := by
  intro v w h
  have hstops : Stops [] := fun c hc => by cases hc
  refine (delimited_chars v w [] [] hstops hstops ?_).1
  rw [chars, chars, h]

end Json

end SearchBridge
