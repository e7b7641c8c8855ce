import Mathlib.Data.Bool.AllAny
import Mathlib.Data.Option.Basic
import SearchBridge.Proofs.Url.TextParts

/-!
# The delimiters of accepted addresses

An address that is read has its parts in their written form, and no part of it has a character that
delimits it in the text: such characters are encoded in the credentials, the path and the query, and
they are refused in the host. So whoever reads the text at its marks sees the parts of the address.

## Main definitions

* `Url.IsWritten` : the addresses with all parts in their written form.
* `Url.textParts` : the parts of an address.

## Main results

* `Url.isWritten_of_ofText?` : accepted addresses are in their written form.
* `Url.IsWritten.isDelimited` : the parts of such an address are delimited.
* `Url.IsWritten.read?_text` : its text shows them.
-/

namespace SearchBridge

/-! ### Digits and encoded characters -/

theorem Hex.exists_eq_digitChar_of_mem_toDigits {base n : Nat} {c : Char}
    (h : c ∈ Nat.toDigits base n) : ∃ d, c = Nat.digitChar d := by
  have hcore (fuel n : Nat) (digits : List Char) (hc : c ∈ Nat.toDigitsCore base fuel n digits) :
      (∃ d, c = Nat.digitChar d) ∨ c ∈ digits := by
    induction fuel generalizing n digits with
    | zero => exact .inr hc
    | succ fuel ih =>
      rw [Nat.toDigitsCore] at hc
      split at hc
      · exact (List.mem_cons.mp hc).imp_left fun h => ⟨_, h⟩
      · rcases ih _ _ hc with hdigit | hc
        · exact .inl hdigit
        · exact (List.mem_cons.mp hc).imp_left fun h => ⟨_, h⟩
  exact (hcore _ n [] h).resolve_right List.not_mem_nil

namespace Url

/-- The characters that a byte is encoded with. -/
def encodingChars : List Char := "%0123456789ABCDEF".toList

theorem mem_encodingChars_of_mem_upperPair {b : UInt8} {c : Char} (h : c ∈ Hex.upperPair b) :
    c ∈ encodingChars := by
  have hdigit : ∀ d < 16, (Nat.digitChar d).toUpper ∈ encodingChars := by decide
  have hb := b.toNat_lt
  obtain rfl | rfl := List.mem_pair.mp h
  · exact hdigit _ (by omega)
  · exact hdigit _ (by omega)

/-- Marks that are encoded wherever they stand do not stand in what is encoded. -/
theorem notMem_of_mem_encode {isExcluded : Char → Bool} {marks : List Char}
    (hmarks : ∀ mark ∈ marks, isExcluded mark = true ∧ mark ∉ encodingChars) (cs : List Char) :
    ∀ c ∈ encode isExcluded cs, c ∉ marks := by
  intro c hc hmark
  obtain ⟨hexcluded, hencoding⟩ := hmarks c hmark
  obtain ⟨x, -, hx⟩ := List.mem_flatMap.mp hc
  rw [encodeChar] at hx
  split at hx
  next =>
    obtain ⟨b, -, hb⟩ := List.mem_flatMap.mp hx
    rcases List.mem_cons.mp hb with rfl | hb
    · exact hencoding (by decide)
    · exact hencoding (mem_encodingChars_of_mem_upperPair hb)
  next hkept =>
    rw [List.mem_singleton.mp hx] at hexcluded
    exact hkept hexcluded

theorem forall_mem_intercalate {P : Char → Prop} {separator : List Char} {pieces : List (List Char)}
    (hseparator : ∀ c ∈ separator, P c) (hpieces : ∀ piece ∈ pieces, ∀ c ∈ piece, P c) :
    ∀ c ∈ separator.intercalate pieces, P c := by
  induction pieces with
  | nil => exact fun c hc => absurd hc List.not_mem_nil
  | cons piece pieces ih =>
    obtain ⟨hpiece, hpieces⟩ := List.forall_mem_cons.mp hpieces
    cases pieces with
    | nil => rwa [List.intercalate_singleton]
    | cons next pieces =>
      rw [List.intercalate_cons_cons, List.append_assoc]
      exact List.forall_mem_append.mpr
        ⟨hpiece, List.forall_mem_append.mpr ⟨hseparator, ih hpieces⟩⟩

/-! ### The authority -/

theorem endsAuthority_iff {c : Char} : endsAuthority c = true ↔ c ∈ ['/', '\\', '?', '#'] :=
  List.contains_iff_mem

/-- For fixed texts between the parts of an authority. -/
theorem endsAuthority_of_all {cs : List Char} (h : cs.all (!endsAuthority ·) = true) :
    ∀ c ∈ cs, endsAuthority c = false :=
  fun c hc => Bool.not_eq_true' _ ▸ List.all_eq_true.mp h c hc

theorem endsAuthority_digitChar (d : Nat) : endsAuthority (Nat.digitChar d) = false := by
  refine Bool.eq_false_iff.mpr fun hends => ?_
  have hmark := endsAuthority_iff.mp hends
  simp only [List.mem_cons, List.not_mem_nil, or_false] at hmark
  rcases hmark with h | h | h | h <;> exact Nat.digitChar_ne _ (by decide) h

theorem endsAuthority_of_mem_toDigits {base n : Nat} :
    ∀ c ∈ Nat.toDigits base n, endsAuthority c = false := by
  intro c hc
  obtain ⟨d, rfl⟩ := Hex.exists_eq_digitChar_of_mem_toDigits hc
  exact endsAuthority_digitChar d

theorem endsAuthority_of_mem_encode {cs : List Char} :
    ∀ c ∈ encode notInUser cs, endsAuthority c = false :=
  fun c hc => Bool.eq_false_iff.mpr fun hends =>
    notMem_of_mem_encode (List.all_iff_forall_prop.mp (by decide)) cs c hc
      (endsAuthority_iff.mp hends)

theorem endsAuthority_of_mem_intercalate {separator : String} {pieces : List String}
    (hseparator : separator.toList.all (!endsAuthority ·) = true)
    (hpieces : ∀ piece ∈ pieces, ∀ c ∈ piece.toList, endsAuthority c = false) :
    ∀ c ∈ (separator.intercalate pieces).toList, endsAuthority c = false := by
  rw [String.toList_intercalate]
  exact forall_mem_intercalate (endsAuthority_of_all hseparator) (List.forall_mem_map.mpr hpieces)

theorem endsAuthority_of_mem_address32Text {address : Nat} :
    ∀ c ∈ (address32Text address).toList, endsAuthority c = false := by
  refine endsAuthority_of_mem_intercalate (by decide) (List.forall_mem_map.mpr fun shift _ => ?_)
  rw [Nat.toString_eq_repr, Nat.toList_repr]
  exact endsAuthority_of_mem_toDigits

theorem address32Text_ne_nil (address : Nat) : (address32Text address).toList ≠ [] := by
  rw [address32Text, String.toList_intercalate]
  simp [List.intercalate_cons_cons]

theorem endsAuthority_of_mem_piecesText {pieces : List Nat} :
    ∀ c ∈ (piecesText pieces).toList, endsAuthority c = false := by
  refine endsAuthority_of_mem_intercalate (by decide) (List.forall_mem_map.mpr fun piece _ => ?_)
  rw [String.toList_ofList]
  exact endsAuthority_of_mem_toDigits

theorem endsAuthority_of_mem_address128Text {pieces : List Nat} :
    ∀ c ∈ (address128Text pieces).toList, endsAuthority c = false := by
  rw [address128Text]
  dsimp only
  split
  · exact endsAuthority_of_mem_piecesText
  · rw [String.toList_append, String.toList_append, List.forall_mem_append, List.forall_mem_append]
    exact ⟨⟨endsAuthority_of_mem_piecesText, endsAuthority_of_all (by decide)⟩,
      endsAuthority_of_mem_piecesText⟩

/-- What delimits parts of an address does not stand in an accepted domain name. -/
theorem endsAuthority_of_domainText? {name written : List Char}
    (h : domainText? name = some written) : ∀ c ∈ written, endsAuthority c = false := by
  simp only [domainText?, bind, Option.bind_eq_some_iff, Option.pure_def, Option.some.injEq] at h
  obtain ⟨_, -, labels, -, _, -, _, -, _, hallowed, hwritten⟩ := h
  have hnone := (Option.guard_eq_some' _).mp hallowed
  rw [hwritten, Bool.not_eq_true', List.any_eq_false] at hnone
  have hforbidden : ∀ c ∈ ['/', '\\', '?', '#'], isForbidden c = true :=
    List.all_iff_forall_prop.mp (by decide)
  exact fun c hc => Bool.eq_false_iff.mpr fun hends =>
    hnone c hc (hforbidden c (endsAuthority_iff.mp hends))

/-- The text of a host that is read is not empty, and the authority does not end in it. -/
theorem Host.text_of_ofChars? {cs : List Char} {host : Host} (h : Host.ofChars? cs = .ok host) :
    host.text.toList ≠ [] ∧ ∀ c ∈ host.text.toList, endsAuthority c = false := by
  unfold Host.ofChars? at h
  split at h
  next => cases h
  -- an address of 128 bits: the brackets around it delimit nothing else
  next =>
    split at h
    next =>
      split at h
      next pieces _ =>
        cases h
        rw [Host.text, String.toList_append, String.toList_append, List.forall_mem_append,
          List.forall_mem_append]
        exact ⟨by simp, ⟨endsAuthority_of_all (by decide), endsAuthority_of_mem_address128Text⟩,
          endsAuthority_of_all (by decide)⟩
      next => cases h
    next => cases h
  -- a name, which is read as a number if it ends in one
  next =>
    split at h
    next => cases h
    next => cases h
    next hne hwritten =>
      obtain ⟨_, -, hdomain⟩ := Option.bind_eq_some_iff.mp hwritten
      split at h
      next =>
        split at h
        next address _ =>
          cases h
          exact ⟨address32Text_ne_nil address, endsAuthority_of_mem_address32Text⟩
        next => cases h
      next =>
        cases h
        rw [Host.text, String.toList_ofList]
        exact ⟨hne, endsAuthority_of_domainText? hdomain⟩

theorem endsAuthority_of_mem_portText {u : Url} :
    ∀ c ∈ u.portText.toList, endsAuthority c = false := by
  rw [portText]
  split
  · rw [String.toList_append, List.forall_mem_append, Nat.toString_eq_repr, Nat.toList_repr]
    exact ⟨endsAuthority_of_all (by decide), endsAuthority_of_mem_toDigits⟩
  · exact endsAuthority_of_all (by decide)

/-! ### The path -/

theorem stepUp_subset (segments : List (List Char)) : stepUp segments ⊆ segments := by
  rw [stepUp]
  split
  · split
    · exact List.Subset.refl segments
    · exact List.dropLast_subset segments
  · exact List.nil_subset segments

/-- The segments of a path are among those that are followed, or empty. -/
theorem forall_mem_follow {P : List Char → Prop} (hnil : P []) {done segments : List (List Char)}
    (hdone : ∀ segment ∈ done, P segment) (hsegments : ∀ segment ∈ segments, P segment) :
    ∀ segment ∈ follow done segments, P segment := by
  have hup {done : List (List Char)} (hdone : ∀ segment ∈ done, P segment) :
      ∀ segment ∈ stepUp done, P segment :=
    fun segment h => hdone segment (stepUp_subset done h)
  have hconcat {done : List (List Char)} {last : List Char} (hdone : ∀ segment ∈ done, P segment)
      (hlast : P last) : ∀ segment ∈ done ++ [last], P segment :=
    List.forall_mem_append.mpr ⟨hdone, List.forall_mem_singleton.mpr hlast⟩
  fun_induction follow done segments with
  | case1 => exact hdone
  | case2 done last hstep => exact hconcat (hup hdone) hnil
  | case3 done last _ hstep => exact hconcat hdone hnil
  | case4 done last => exact hconcat hdone (List.forall_mem_singleton.mp hsegments)
  | case5 done segment rest _ hstep ih =>
    exact ih (hup hdone) (List.forall_mem_cons.mp hsegments).2
  | case6 done segment rest _ _ hstep ih => exact ih hdone (List.forall_mem_cons.mp hsegments).2
  | case7 done segment rest _ _ _ ih =>
    obtain ⟨hsegment, hrest⟩ := List.forall_mem_cons.mp hsegments
    exact ih (hconcat hdone hsegment) hrest

/-- A path has no mark of a query or fragment. -/
theorem notMem_of_mem_pathOf (cs : List Char) : ∀ c ∈ pathOf cs, c ∉ ['?', '#'] := by
  rw [pathOf]
  refine List.forall_mem_cons.mpr ⟨by decide,
    forall_mem_intercalate (List.all_iff_forall_prop.mp (by decide)) ?_⟩
  refine forall_mem_follow (by simp) (by simp) fun segment hsegment => ?_
  obtain ⟨raw, -, rfl⟩ := List.mem_map.mp hsegment
  exact notMem_of_mem_encode (List.all_iff_forall_prop.mp (by decide)) raw

/-! ### Accepted addresses -/

/-- The parts of an address are in their written form. -/
structure IsWritten (u : Url) : Prop where
  user : ∃ cs, u.user = encode notInUser cs
  password : ∃ cs, u.password = encode notInUser cs
  host : ∃ cs, Host.ofChars? cs = .ok u.host
  path : ∃ cs, u.path = pathOf cs
  query : ∃ cs : Option (List Char), u.query = cs.map (encode notInQuery)
  fragment : ∃ cs : Option (List Char), u.fragment = cs.map (encode notInFragment)

theorem isWritten_of_ofText? {s : String} {u : Url} (h : ofText? s = .ok u) : u.IsWritten := by
  simp only [ofText?, bind, Except.bind, pure, Except.pure] at h
  split at h
  next => cases h
  next =>
    split at h
    next => cases h
    next host hhost =>
      split at h
      next => cases h
      next =>
        cases h
        exact ⟨⟨_, rfl⟩, ⟨_, rfl⟩, ⟨_, hhost⟩, ⟨_, rfl⟩, ⟨_, rfl⟩, ⟨_, rfl⟩⟩

/-- The parts of an address. -/
def textParts (u : Url) : TextParts where
  scheme := u.scheme.name.toList
  authority := u.authority.toList
  path := u.path
  query := u.query
  fragment := u.fragment

/-- The text of an address has its parts between their marks. -/
theorem toList_text (u : Url) : u.text.toList = u.textParts.chars := by
  rw [text, target, TextParts.chars, textParts]
  cases u.query <;> cases u.fragment <;>
    simp only [String.toList_append, String.toList_ofList, marked, List.append_assoc,
      String.toList_empty, List.append_nil] <;> rfl

theorem endsAuthority_of_mem_credentialsText {u : Url} (h : u.IsWritten) :
    ∀ c ∈ u.credentialsText.toList, endsAuthority c = false := by
  obtain ⟨user, huser⟩ := h.user
  obtain ⟨password, hpassword⟩ := h.password
  rw [credentialsText, huser, hpassword]
  split
  · split
    · exact endsAuthority_of_all (by decide)
    · rw [String.toList_append, List.forall_mem_append, String.toList_ofList]
      exact ⟨endsAuthority_of_mem_encode, endsAuthority_of_all (by decide)⟩
  · simp only [String.toList_append, List.forall_mem_append, String.toList_ofList]
    exact ⟨⟨⟨endsAuthority_of_mem_encode, endsAuthority_of_all (by decide)⟩,
      endsAuthority_of_mem_encode⟩, endsAuthority_of_all (by decide)⟩

theorem Scheme.forall_mem_name (s : Scheme) : ∀ c ∈ s.name.toList, c ∉ [':', '?', '#'] := by
  cases s <;> exact List.all_iff_forall_prop.mp (by decide)

/-- The parts of an address in their written form are delimited. -/
theorem IsWritten.isDelimited {u : Url} (h : u.IsWritten) : u.textParts.IsDelimited := by
  obtain ⟨host, hhost⟩ := h.host
  obtain ⟨hnonempty, hhost⟩ := Host.text_of_ofChars? hhost
  obtain ⟨path, hpath⟩ := h.path
  obtain ⟨query, hquery⟩ := h.query
  refine ⟨?_, ?_, ?_, ?_, ?_, ?_⟩
  · exact u.scheme.forall_mem_name
  · have hauthority : ∀ c ∈ u.authority.toList, endsAuthority c = false := by
      rw [authority, String.toList_append, String.toList_append, List.forall_mem_append,
        List.forall_mem_append]
      exact ⟨⟨endsAuthority_of_mem_credentialsText h, hhost⟩, endsAuthority_of_mem_portText⟩
    intro c hc hmark
    have hends : ∀ c ∈ ['/', '?', '#'], endsAuthority c = true :=
      List.all_iff_forall_prop.mp (by decide)
    exact Bool.false_ne_true ((hauthority c hc).symm.trans (hends c hmark))
  · simp [textParts, authority, hnonempty]
  · rw [textParts, hpath]
    exact notMem_of_mem_pathOf path
  · rw [textParts, hpath]
    rfl
  · rw [textParts, hquery]
    rintro _ hsome hmark
    obtain ⟨raw, -, rfl⟩ := Option.map_eq_some_iff.mp hsome
    exact notMem_of_mem_encode (List.all_iff_forall_prop.mp (by decide)) raw '#' hmark
      (List.mem_singleton_self '#')

/-- The text of an address shows its parts. -/
theorem IsWritten.read?_text {u : Url} (h : u.IsWritten) :
    TextParts.read? u.text = some u.textParts := by
  rw [← TextParts.read?_chars h.isDelimited, ← toList_text, String.ofList_toList]

end Url

end SearchBridge
