import Mathlib.Data.List.DropRight
import SearchBridge.Url.Parsing

/-!
# The parts that the text of an address shows

Whoever knows the marks between its parts can read the text `scheme://authority/path?query#fragment`
of an address without knowing how addresses are parsed: the fragment starts at the first number
sign, the query at the first question mark before it, and the authority ends at the first slash.
Parts are read back from the text that they are written in as soon as none of them has a mark that
ends it. A text that is added at the end of an address goes to the last part that is there.

## Main definitions

* `Url.TextParts`, `Url.TextParts.read?` : the parts that a text shows.
* `Url.TextParts.chars` : the text of parts.
* `Url.TextParts.IsDelimited` : no part has a mark that ends it.
* `Url.joinSlash` : two texts with one slash between them.
* `Url.TextParts.extend` : where a text added after one slash goes.

## Main results

* `Url.TextParts.read?_chars` : delimited parts are read back.
* `Url.TextParts.chars_extend`, `Url.TextParts.IsDelimited.extend` : the text of extended parts, and
  that they are delimited.
-/

namespace SearchBridge

/-- A character that does not satisfy the condition ends what is dropped. -/
theorem Text.dropEnd_append_cons {p : Char → Bool} {c : Char} (hc : p c = false)
    (before after : List Char) :
    Text.dropEnd p (before ++ c :: after) = before ++ c :: Text.dropEnd p after := by
  have hstop : (after.reverse ++ c :: before.reverse).dropWhile p =
      after.reverse.dropWhile p ++ c :: before.reverse := by
    rw [List.dropWhile_append, List.dropWhile_cons_of_neg (ne_true_of_eq_false hc)]
    split
    next hempty => rw [List.isEmpty_iff.mp hempty, List.nil_append]
    next => rfl
  rw [Text.dropEnd, Text.dropEnd, List.reverse_append, List.reverse_cons, List.append_assoc,
    List.singleton_append, hstop, List.reverse_append, List.reverse_cons, List.reverse_reverse,
    List.append_assoc, List.singleton_append]

theorem Text.dropEnd_prefix (p : Char → Bool) (cs : List Char) : Text.dropEnd p cs <+: cs :=
  List.rdropWhile_prefix p cs

namespace Url

/-! ### Marks -/

/-- A mark and the part that it starts, if that is there. -/
def marked (mark : Char) : Option (List Char) → List Char
  | none => []
  | some part => mark :: part

theorem mem_marked_of_ne {mark c : Char} (hne : c ≠ mark) {part : Option (List Char)}
    (h : c ∈ marked mark part) : ∃ cs ∈ part, c ∈ cs := by
  cases part with
  | none => cases h
  | some cs => exact ⟨cs, rfl, (List.mem_cons.mp h).resolve_left hne⟩

/-- Characters are cut at the first mark. -/
theorem splitMark_append_marked {mark : Char} {before : List Char} (h : mark ∉ before)
    (part : Option (List Char)) : splitMark mark (before ++ marked mark part) = (before, part) := by
  have hbefore : ∀ c ∈ before, (c != mark) = true :=
    fun c hc => bne_iff_ne.mpr fun heq => h (heq ▸ hc)
  rw [splitMark, List.takeWhile_append_of_pos hbefore, List.dropWhile_append_of_pos hbefore]
  cases part with
  | none => rw [marked, List.takeWhile_nil, List.dropWhile_nil, List.append_nil]
  | some part =>
    have hmark : ¬(mark != mark) = true := ne_true_of_eq_false (bne_self_eq_false mark)
    rw [marked, List.takeWhile_cons_of_neg (p := (· != mark)) hmark,
      List.dropWhile_cons_of_neg (p := (· != mark)) hmark, List.append_nil]

/-! ### Texts with a slash between them -/

/-- The first text without slashes at its end and the second one without slashes at its start, with
one slash between them. -/
def joinSlash (above below : List Char) : List Char :=
  Text.dropEnd (· == '/') above ++ '/' :: below.dropWhile (· == '/')

variable {above below : List Char}

theorem joinSlash_append_cons {c : Char} (hc : (c == '/') = false)
    (before above below : List Char) :
    joinSlash (before ++ c :: above) below = before ++ c :: joinSlash above below := by
  rw [joinSlash, Text.dropEnd_append_cons (p := (· == '/')) hc, List.append_assoc, List.cons_append,
    joinSlash]

theorem mem_joinSlash {c : Char} (h : c ∈ joinSlash above below) :
    c ∈ above ∨ c = '/' ∨ c ∈ below := by
  rcases List.mem_append.mp h with habove | hbelow
  · exact .inl ((Text.dropEnd_prefix _ above).subset habove)
  · exact .inr ((List.mem_cons.mp hbelow).imp_right fun h => (List.dropWhile_suffix _).subset h)

theorem head?_joinSlash (h : above.head? = some '/') :
    (joinSlash above below).head? = some '/' := by
  obtain ⟨rest, rfl⟩ := List.head?_eq_some_iff.mp h
  rw [joinSlash]
  cases hkept : Text.dropEnd (· == '/') ('/' :: rest) with
  | nil => rfl
  | cons c kept =>
    obtain ⟨rfl, -⟩ := List.cons_prefix_cons.mp (hkept ▸ Text.dropEnd_prefix _ ('/' :: rest))
    rfl

/-- Adding nothing but slashes changes no text that ends with exactly one slash, and everything else
does. -/
theorem joinSlash_eq_self_iff : joinSlash above below = above ↔
    Text.dropEnd (· == '/') above ++ ['/'] = above ∧ ∀ c ∈ below, c = '/' := by
  constructor
  · intro h
    have hadded : '/' :: below.dropWhile (· == '/') = above.rtakeWhile (· == '/') :=
      List.append_cancel_left (h.trans List.rdropWhile_append_rtakeWhile.symm)
    have hslashes : ∀ c ∈ below, (c == '/') = true := by
      rw [← List.takeWhile_append_dropWhile (p := (· == '/')) (l := below)]
      refine List.forall_mem_append.mpr ⟨fun c hc => ?_, fun c hc => ?_⟩
      · exact List.mem_takeWhile_imp (p := (· == '/')) hc
      · exact List.mem_rtakeWhile_imp (p := (· == '/')) (hadded ▸ List.mem_cons_of_mem _ hc)
    rw [joinSlash, List.dropWhile_eq_nil_iff.mpr hslashes] at h
    exact ⟨h, fun c hc => beq_iff_eq.mp (hslashes c hc)⟩
  · rintro ⟨hend, hslashes⟩
    rw [joinSlash, List.dropWhile_eq_nil_iff.mpr fun c hc => beq_iff_eq.mpr (hslashes c hc), hend]

/-! ### Reading -/

/-- The parts that the text `scheme://authority/path?query#fragment` shows. The path has its first
slash; a query or fragment that is there may be empty. -/
structure TextParts where
  scheme : List Char
  authority : List Char
  path : List Char
  query : Option (List Char)
  fragment : Option (List Char)
  deriving DecidableEq

namespace TextParts

/-- Reads the parts that a text shows. -/
def read? (s : String) : Option TextParts :=
  let (rest, fragment) := splitMark '#' s.toList
  let (rest, query) := splitMark '?' rest
  match splitMark ':' rest with
  | (scheme, some ('/' :: '/' :: rest)) => some {
      scheme := scheme
      authority := rest.takeWhile (· != '/')
      path := rest.dropWhile (· != '/')
      query := query
      fragment := fragment }
  | _ => none

/-- The characters that parts are written in. -/
def chars (p : TextParts) : List Char :=
  p.scheme ++ "://".toList ++ p.authority ++ p.path ++ marked '?' p.query ++ marked '#' p.fragment

/-- No part has a mark that ends it. There is an authority, and a path that starts with a slash. -/
structure IsDelimited (p : TextParts) : Prop where
  scheme : ∀ c ∈ p.scheme, c ∉ [':', '?', '#']
  authority : ∀ c ∈ p.authority, c ∉ ['/', '?', '#']
  authority_ne_nil : p.authority ≠ []
  path : ∀ c ∈ p.path, c ∉ ['?', '#']
  path_head : p.path.head? = some '/'
  query : ∀ query ∈ p.query, '#' ∉ query

variable {p : TextParts}

/-- What comes before the query and the fragment has no mark of theirs. -/
theorem IsDelimited.notMem_of_mark (h : p.IsDelimited) {mark : Char} (hmark : mark ∈ ['?', '#']) :
    mark ∉ p.scheme ++ "://".toList ++ p.authority ++ p.path := by
  simp only [List.mem_append, not_or]
  refine ⟨⟨⟨fun hscheme => ?_, ?_⟩, fun hauthority => ?_⟩, fun hpath => ?_⟩
  · exact h.scheme mark hscheme (List.mem_cons_of_mem _ hmark)
  · obtain rfl | rfl := List.mem_pair.mp hmark <;> decide
  · exact h.authority mark hauthority (List.mem_cons_of_mem _ hmark)
  · exact h.path mark hpath hmark

/-- Delimited parts are read back from their text. -/
theorem read?_chars (h : p.IsDelimited) : read? (String.ofList p.chars) = some p := by
  have hfragment : splitMark '#' p.chars =
      (p.scheme ++ "://".toList ++ p.authority ++ p.path ++ marked '?' p.query, p.fragment) := by
    refine splitMark_append_marked (fun hmem => ?_) _
    rcases List.mem_append.mp hmem with hbefore | hquery
    · exact h.notMem_of_mark (List.mem_pair.mpr (.inr rfl)) hbefore
    · obtain ⟨query, hsome, hmem⟩ := mem_marked_of_ne (by decide) hquery
      exact h.query query hsome hmem
  have hquery : splitMark '?' (p.scheme ++ "://".toList ++ p.authority ++ p.path ++
      marked '?' p.query) = (p.scheme ++ "://".toList ++ p.authority ++ p.path, p.query) :=
    splitMark_append_marked (h.notMem_of_mark (List.mem_pair.mpr (.inl rfl))) _
  have hscheme : splitMark ':' (p.scheme ++ "://".toList ++ p.authority ++ p.path) =
      (p.scheme, some ('/' :: '/' :: (p.authority ++ p.path))) := by
    rw [List.append_assoc, List.append_assoc]
    exact splitMark_append_marked (fun hcolon => h.scheme _ hcolon List.mem_cons_self)
      (some ('/' :: '/' :: (p.authority ++ p.path)))
  have hauthority : ∀ c ∈ p.authority, (c != '/') = true :=
    fun c hc => bne_iff_ne.mpr fun hslash => h.authority c hc (hslash ▸ List.mem_cons_self)
  obtain ⟨path, hpath⟩ : ∃ path, p.path = '/' :: path := List.head?_eq_some_iff.mp h.path_head
  simp only [read?, String.toList_ofList, hfragment, hquery, hscheme]
  rw [List.takeWhile_append_of_pos hauthority, List.dropWhile_append_of_pos hauthority, hpath,
    List.takeWhile_cons_of_neg (by decide), List.dropWhile_cons_of_neg (by decide),
    List.append_nil, ← hpath]

/-! ### Text added at the end -/

/-- Parts with a text added after one slash to the last of them that is there. -/
def extend (p : TextParts) (below : List Char) : TextParts :=
  match p.query, p.fragment with
  | none, none => { p with path := joinSlash p.path below }
  | some query, none => { p with query := some (joinSlash query below) }
  | _, some fragment => { p with fragment := some (joinSlash fragment below) }

variable {below : List Char}

theorem extend_scheme : (p.extend below).scheme = p.scheme := by
  rw [extend]
  split <;> rfl

theorem extend_authority : (p.extend below).authority = p.authority := by
  rw [extend]
  split <;> rfl

/-- The path is added to if it is the last part. -/
theorem extend_path : (p.extend below).path =
    if p.query = none ∧ p.fragment = none then joinSlash p.path below else p.path := by
  obtain ⟨scheme, authority, path, _ | query, _ | fragment⟩ := p <;> rfl

/-- A text added after one slash to the text of parts is added to the last of them: the mark of a
query or fragment, or the end of the authority, is no slash. -/
theorem chars_extend (h : p.IsDelimited) (below : List Char) :
    (p.extend below).chars = joinSlash p.chars below := by
  obtain ⟨scheme, authority, path, _ | query, _ | fragment⟩ := p
  -- a path of slashes only is dropped whole, so the authority has to hold
  · obtain ⟨server, last, rfl⟩ := authority.eq_nil_or_concat'.resolve_left h.authority_ne_nil
    have hlast : (last == '/') = false := beq_eq_false_iff_ne.mpr fun hslash =>
      h.authority last List.mem_concat_self (hslash ▸ List.mem_cons_self)
    have happend := joinSlash_append_cons hlast (scheme ++ "://".toList ++ server) path below
    simp only [chars, extend, marked, List.append_nil, List.append_assoc, List.singleton_append]
      at happend ⊢
    exact happend.symm
  · simp only [chars, extend, marked]
    exact (joinSlash_append_cons (by decide) _ fragment below).symm
  · simp only [chars, extend, marked, List.append_nil]
    exact (joinSlash_append_cons (by decide) _ query below).symm
  · simp only [chars, extend, marked]
    exact (joinSlash_append_cons (by decide) _ fragment below).symm

/-- Parts stay delimited if the added text has no mark of a query or fragment. -/
theorem IsDelimited.extend (h : p.IsDelimited) (hbelow : ∀ c ∈ below, c ∉ ['?', '#']) :
    (p.extend below).IsDelimited := by
  obtain ⟨scheme, authority, path, _ | query, _ | fragment⟩ := p
  · refine { h with path := fun c hc => ?_, path_head := head?_joinSlash h.path_head }
    rcases mem_joinSlash hc with hpath | rfl | hc
    · exact h.path c hpath
    · decide
    · exact hbelow c hc
  · exact { h with }
  · refine { h with query := ?_ }
    rintro _ ⟨⟩ hmark
    rcases mem_joinSlash hmark with hquery | hslash | hmark
    · exact h.query query rfl hquery
    · exact absurd hslash (by decide)
    · exact hbelow _ hmark (by decide)
  · exact { h with }

end TextParts

end Url

end SearchBridge
