import ChatScribe.Proofs.Text.Ends
import ChatScribe.Proofs.Text.Lines
import ChatScribe.Proofs.Text.Prefix
import ChatScribe.Proofs.Text.Utf8
import ChatScribe.Url.Share

/-!
# Which addresses are those of shared conversations

`Address` is an address by its parts. A plain address uses no escapes, no dots in its path, and neither a
user nor a port, so each part is read as it is written, the scheme and the host in small letters.
`isSharePage_iff` says which of the plain addresses are accepted. No query and no fragment makes a
difference, and no host that only looks like the right one passes.
-/

namespace ChatScribe.Url

/-! ## Addresses by their parts -/

/-- A letter, a digit, or one of some marks. -/
def isAlphanumOr (marks : Text) (c : Char) : Bool := Text.isAsciiAlphanum c || marks.contains c

/-- The marks in a segment of a plain path. -/
def segmentMarks : Text := ['_', '-']

/-- The marks in a plain host. -/
def hostMarks : Text := ['.', '-']

/-- The marks in a plain query and in a plain fragment. -/
def queryMarks : Text := ['_', '=', '&', '-']

/-- An address by its parts, as they are written. -/
structure Address where
  scheme : Text
  host : Text
  segments : List Text
  query? : Option Text
  fragment? : Option Text

namespace Address

/-- The path, with the slash that it starts with. -/
def path (a : Address) : Text := '/' :: Text.join ['/'] a.segments

/-- A part that may be missing, behind its mark. -/
def behind (mark : Char) : Option Text → Text
  | some t => mark :: t
  | none => []

/-- The query and the fragment. -/
def tail (a : Address) : Text := behind '?' a.query? ++ behind '#' a.fragment?

/-- The address as it is written. -/
def text (a : Address) : Text :=
  a.scheme ++ ':' :: '/' :: '/' :: (a.host ++ (a.path ++ a.tail))

/-- An address whose parts are read as they are written. -/
structure IsPlain (a : Address) : Prop where
  scheme : ∃ c r, a.scheme = c :: r ∧ Text.isAsciiAlpha c = true ∧
    ∀ d ∈ r, Text.isAsciiAlphanum d = true
  host_ne_nil : a.host ≠ []
  host : ∀ c ∈ a.host, isAlphanumOr hostMarks c = true
  segments : ∀ s ∈ a.segments, ∀ c ∈ s, isAlphanumOr segmentMarks c = true
  query : ∀ t ∈ a.query?, ∀ c ∈ t, isAlphanumOr queryMarks c = true
  fragment : ∀ t ∈ a.fragment?, ∀ c ∈ t, isAlphanumOr queryMarks c = true

end Address

/-! ## Characters -/

/-- The characters that ASCII prints, without the space. -/
def IsPrinted (c : Char) : Prop := 0x20 < c.toNat ∧ c.toNat < 0x7F

instance (c : Char) : Decidable (IsPrinted c) := inferInstanceAs (Decidable (_ ∧ _))

section

variable {c : Char} {marks t : Text}

theorem IsPrinted.isSpace_eq (h : IsPrinted c) : Text.isSpace c = false := by
  unfold IsPrinted at h
  unfold Text.isSpace
  simp
  omega

theorem isPrinted_of_isAsciiAlphanum (h : Text.isAsciiAlphanum c = true) : IsPrinted c := by
  unfold Text.isAsciiAlphanum Text.isAsciiAlpha Text.isAsciiUpper Text.isAsciiLower
    Text.isAsciiDigit at h
  simp only [Bool.or_eq_true, Bool.and_eq_true, decide_eq_true_eq] at h
  have hle : ∀ {a b : Char}, a ≤ b → a.toNat ≤ b.toNat := fun hab => hab
  unfold IsPrinted
  rcases h with (⟨hlow, hhigh⟩ | ⟨hlow, hhigh⟩) | ⟨hlow, hhigh⟩
  all_goals
    have hlow' := hle hlow
    have hhigh' := hle hhigh
    simp at hlow' hhigh'
    omega

theorem isPrinted_of_isAlphanumOr (hmarks : marks.all (fun m => decide (IsPrinted m)) = true)
    (h : isAlphanumOr marks c = true) : IsPrinted c := by
  rcases Bool.or_eq_true_iff.mp h with halnum | hmem
  · exact isPrinted_of_isAsciiAlphanum halnum
  · exact of_decide_eq_true (List.all_eq_true.mp hmarks c (List.contains_iff_mem.mp hmem))

/-- A text of one kind of characters has no other ones. -/
theorem ne_of_isAlphanumOr {d : Char} (hd : isAlphanumOr marks d = false)
    (h : isAlphanumOr marks c = true) : c ≠ d := by
  rintro rfl
  rw [hd] at h
  cases h

/-- Nothing is dropped in front if nothing is to be dropped. -/
theorem dropWhile_eq_self {p : Char → Bool} (h : ∀ c ∈ t, p c = false) : t.dropWhile p = t := by
  cases t with
  | nil => rfl
  | cons c t => rw [List.dropWhile_cons, h c List.mem_cons_self, if_neg Bool.false_ne_true]

/-- Printed text is found again between white space. -/
theorem trim_of_isPrinted {front back : Text} (hne : t ≠ []) (h : ∀ c ∈ t, IsPrinted c)
    (hfront : Text.isBlank front = true) (hback : Text.isBlank back = true) :
    Text.trim (front ++ (t ++ back)) = t := by
  have hshown : Text.isBlank t = false := by
    obtain ⟨c, r, rfl⟩ := List.exists_cons_of_ne_nil hne
    rw [Text.isBlank, List.all_cons, (h c List.mem_cons_self).isSpace_eq, Bool.false_and]
  have hstart : Text.trimStart (front ++ (t ++ back)) = t ++ back := by
    have hkeep : Text.trimStart t = t := dropWhile_eq_self fun c hc => (h c hc).isSpace_eq
    have hdrop : Text.trimStart (front ++ (t ++ back)) = Text.trimStart (t ++ back) :=
      List.dropWhile_append_of_pos (List.all_eq_true.mp hfront)
    rw [hdrop, Text.trimStart_append hshown, hkeep]
  have hend : Text.trimEnd t = t := by
    have hrev : t.reverse.dropWhile Text.isSpace = t.reverse :=
      dropWhile_eq_self fun c hc => (h c (List.mem_reverse.mp hc)).isSpace_eq
    rw [Text.trimEnd, hrev, List.reverse_reverse]
  rw [Text.trim, hstart, Text.trimEnd_append_of_isBlank hback, hend]

/-- There is nothing to be cleaned away from printed text. -/
theorem clean_of_isPrinted (h : ∀ c ∈ t, IsPrinted c) : clean t = t := by
  have hedge : ∀ c ∈ t, decide (c.toNat ≤ 0x20) = false := fun c hc => by
    have hlow : 0x20 < c.toNat := (h c hc).1
    rw [decide_eq_false_iff_not]
    omega
  have hrev : t.reverse.dropWhile (fun c => decide (c.toNat ≤ 0x20)) = t.reverse :=
    dropWhile_eq_self fun c hc => hedge c (List.mem_reverse.mp hc)
  have hbreak : ∀ c ∈ t, (c != '\t' && c != '\n' && c != '\r') = true := fun c hc => by
    have hlow := (h c hc).1
    have hne : ∀ d : Char, d.toNat ≤ 0x20 → (c != d) = true := by
      rintro d hd
      rw [bne_iff_ne]
      rintro rfl
      omega
    rw [hne '\t' (by decide), hne '\n' (by decide), hne '\r' (by decide)]
    rfl
  unfold clean
  dsimp only
  rw [dropWhile_eq_self hedge, hrev, List.reverse_reverse, List.filter_eq_self.mpr hbreak]

/-! ## The parts of an address -/

/-- The pieces between slashes, if there is no backslash. -/
theorem segments_eq_splitOn (h : '\\' ∉ t) : segments t = Text.splitOn '/' t := by
  induction t with
  | nil => rfl
  | cons c t ih =>
    rw [List.mem_cons, not_or] at h
    have hslash : isSlash c = (c == '/') := by
      rw [isSlash, beq_false_of_ne (Ne.symm h.1), Bool.or_false]
    rw [segments, Text.splitOn, hslash, ih h.2]
    by_cases hc : c = '/'
    · rw [if_pos hc, if_pos (beq_iff_eq.mpr hc)]
    · have hne : ¬ (c == '/') = true := by simpa using hc
      refine (if_neg hne).trans (Eq.trans ?_ (if_neg hc).symm)
      cases Text.splitOn '/' t <;> rfl

/-- Only a letter is changed by lower case. -/
theorem eq_of_lowerChar_eq {d : Char} (hd : Text.isAsciiLower d = false) (h : Text.lowerChar c = d) :
    c = d := by
  unfold Text.lowerChar at h
  split at h
  · -- what is changed becomes a small letter, which `d` is not
    rename_i hupper
    rw [Text.isAsciiUpper, Bool.and_eq_true, decide_eq_true_eq, decide_eq_true_eq] at hupper
    have hlow : 65 ≤ c.toNat := hupper.1
    have hhigh : c.toNat ≤ 90 := hupper.2
    have hvalid : (c.toNat + 32).isValidChar := Or.inl (by omega)
    have hnumber : d.toNat = c.toNat + 32 := by
      rw [← h, Char.ofNat, dif_pos hvalid]
      rfl
    have hletter : Text.isAsciiLower d = true := by
      rw [Text.isAsciiLower, Bool.and_eq_true, decide_eq_true_eq, decide_eq_true_eq]
      have hlow' : 97 ≤ d.toNat := by omega
      have hhigh' : d.toNat ≤ 122 := by omega
      exact ⟨hlow', hhigh'⟩
    rw [hd] at hletter
    cases hletter
  · exact h

/-- A segment without dots and escapes names no other place. -/
theorem not_isHere_and_not_isAbove (hdot : '.' ∉ t) (hescape : '%' ∉ t) :
    isHere t = false ∧ isAbove t = false := by
  have hlower : ∀ c ∈ Text.lower t, c ≠ '.' ∧ c ≠ '%' := by
    intro c hc
    obtain ⟨d, hd, rfl⟩ := List.mem_map.mp hc
    constructor
    · intro h
      exact hdot (eq_of_lowerChar_eq (by decide) h ▸ hd)
    · intro h
      exact hescape (eq_of_lowerChar_eq (by decide) h ▸ hd)
  have hne : ∀ {c : Char} {r : Text}, c = '.' ∨ c = '%' → (Text.lower t == c :: r) = false := by
    intro c r hc
    rw [beq_eq_false_iff_ne]
    intro h
    obtain ⟨hdot', hescape'⟩ := hlower c (h ▸ List.mem_cons_self)
    exact hc.elim hdot' hescape'
  constructor
  · show (Text.lower t == ['.'] || Text.lower t == ['%', '2', 'e']) = false
    rw [hne (Or.inl rfl), hne (Or.inr rfl)]
    rfl
  · show (Text.lower t == ['.', '.'] || Text.lower t == ['.', '%', '2', 'e']
      || Text.lower t == ['%', '2', 'e', '.'] || Text.lower t == ['%', '2', 'e', '%', '2', 'e']) = false
    rw [hne (Or.inl rfl), hne (Or.inl rfl), hne (Or.inr rfl), hne (Or.inr rfl)]
    rfl

/-- Segments without dots and escapes are not resolved. -/
theorem resolve_eq {ss : List Text} (h : ∀ s ∈ ss, '.' ∉ s ∧ '%' ∉ s) (above : List Text) :
    resolve above ss = above.reverse ++ ss := by
  induction ss generalizing above with
  | nil => exact (List.append_nil _).symm
  | cons s ss ih =>
    obtain ⟨hs, hss⟩ := List.forall_mem_cons.mp h
    obtain ⟨hhere, habove⟩ := not_isHere_and_not_isAbove hs.1 hs.2
    cases ss with
    | nil => simp [resolve, hhere, habove]
    | cons s' ss =>
      have hstep : resolve above (s :: s' :: ss) = resolve (s :: above) (s' :: ss) := by
        simp [resolve, hhere, habove]
      rw [hstep, ih hss]
      simp

/-- A path leads to a shared conversation if it goes on behind its first segment. -/
theorem isSharePath_splitOn_iff (t : Text) :
    isSharePath (Text.splitOn '/' t) = true ↔ ∃ r, r ≠ [] ∧ t = shareSegment ++ '/' :: r := by
  constructor
  · intro h
    have hjoin := Text.join_splitOn '/' t
    match hsplit : Text.splitOn '/' t, h with
    | first :: second :: rest, h =>
      rw [isSharePath, Bool.and_eq_true, beq_iff_eq] at h
      obtain ⟨rfl, hmore⟩ := h
      rw [hsplit, Text.join_cons_of_ne_nil _ _ (List.cons_ne_nil second rest)] at hjoin
      refine ⟨Text.join ['/'] (second :: rest), ?_, by rw [← hjoin]; simp⟩
      -- an empty second segment must be followed by a third
      cases second with
      | cons c second => cases rest <;> simp [Text.join]
      | nil =>
        cases rest with
        | nil => cases hmore
        | cons third rest => simp [Text.join]
  · rintro ⟨r, hr, rfl⟩
    have hfirst : Text.splitOn '/' shareSegment = [shareSegment] :=
      Text.splitOn_of_not_mem (by decide)
    rw [Text.splitOn_append_cons, hfirst]
    obtain ⟨c, r, rfl⟩ := List.exists_cons_of_ne_nil hr
    obtain ⟨s, ss, hs⟩ := List.exists_cons_of_ne_nil (Text.splitOn_ne_nil '/' r)
    rw [Text.splitOn, hs]
    split <;> simp [isSharePath]

/-! ## Hosts -/

/-- What holds no separator is not split. -/
theorem splitOnce_of_not_mem {sep : Char} (h : sep ∉ t) : Text.splitOnce sep t = none := by
  cases hsplit : Text.splitOnce sep t with
  | none => rfl
  | some cut =>
    rw [Text.eq_append_of_splitOnce hsplit] at h
    exact absurd (by simp) h

/-- An authority without user and port is a host. -/
theorem hostOf?_of_not_mem (huser : '@' ∉ t) (hport : ':' ∉ t) : hostOf? t = some t := by
  have hlast : Text.splitLast '@' t = none := by
    rw [Text.splitLast, splitOnce_of_not_mem (by simpa using huser), Option.map_none]
  rw [hostOf?, hlast]
  dsimp only
  rw [splitOnce_of_not_mem hport]

/-- Bytes without an escape stay as they are. -/
theorem unescape_of_not_mem {bs : List UInt8} (h : 0x25 ∉ bs) : Host.unescape bs = bs := by
  fun_induction Host.unescape bs with
  | case1 => simp at h
  | case2 => simp at h
  | case3 a r _ ih => rw [ih fun hmem => h (List.mem_cons_of_mem a hmem)]
  | case4 => rfl

/-- A host in ASCII without escapes is read in small letters. -/
theorem fold?_of_isPrinted (hescape : '%' ∉ t) (h : ∀ c ∈ t, IsPrinted c) :
    Host.fold? t = some (Text.lower t) := by
  have hbytes : 0x25 ∉ Utf8.encode t := by
    intro hmem
    obtain ⟨c, hc, hbyte⟩ := List.mem_flatMap.mp hmem
    have hnumber := Utf8.toNat_eq_of_mem_encodeChar (by decide) hbyte
    exact hescape ((Char.toNat_inj.mp hnumber : c = '%') ▸ hc)
  have hfold : t.flatMap Host.foldChar = Text.lower t := by
    rw [Text.lower, List.map_eq_flatMap]
    refine List.flatMap_congr fun c hc => ?_
    have hascii : c.toNat < 0x80 := Nat.lt_trans (h c hc).2 (by decide)
    rw [Host.foldChar]
    exact if_pos hascii
  rw [Host.fold?, unescape_of_not_mem hbytes, Utf8.decode?_encode, Option.map_some, hfold]

end

/-! ## Reading a plain address -/

namespace Address

/-- What may be missing holds its mark, and characters of its own. -/
theorem mem_behind {mark c : Char} {part? : Option Text} (h : c ∈ behind mark part?) :
    c = mark ∨ ∃ t ∈ part?, c ∈ t := by
  cases part? with
  | none => cases h
  | some t => exact (List.mem_cons.mp h).imp_right fun hc => ⟨t, rfl, hc⟩

/-- Behind the path an address goes on with a mark, if it goes on. -/
theorem head?_tail (a : Address) : ∀ c ∈ a.tail.head?, c = '?' ∨ c = '#' := by
  unfold tail behind
  cases a.query? with
  | some q =>
    intro c hc
    exact Or.inl (Option.some.inj hc).symm
  | none =>
    cases a.fragment? with
    | some f =>
      intro c hc
      exact Or.inr (Option.some.inj hc).symm
    | none =>
      intro c hc
      cases hc

namespace IsPlain

variable {a : Address}

theorem mem_path (h : a.IsPlain) {c : Char} (hc : c ∈ a.path) :
    c = '/' ∨ isAlphanumOr segmentMarks c = true := by
  by_cases hslash : c = '/'
  · exact Or.inl hslash
  · have hjoin : c ∈ Text.join ['/'] a.segments := List.mem_of_ne_of_mem hslash hc
    obtain ⟨s, hs, hmem⟩ := (Text.mem_join_iff (by simpa using hslash) _).mp hjoin
    exact Or.inr (h.segments s hs c hmem)

theorem isAsciiAlphanum_scheme (h : a.IsPlain) : ∀ c ∈ a.scheme, Text.isAsciiAlphanum c = true := by
  obtain ⟨c, r, heq, hc, hr⟩ := h.scheme
  rw [heq]
  refine List.forall_mem_cons.mpr ⟨?_, hr⟩
  rw [Text.isAsciiAlphanum, hc, Bool.true_or]

/-- All of a plain address is printed. -/
theorem isPrinted (h : a.IsPlain) : ∀ c ∈ a.text, IsPrinted c := by
  have hquery : ∀ {mark : Char} {part? : Option Text}, IsPrinted mark →
      (∀ t ∈ part?, ∀ c ∈ t, isAlphanumOr queryMarks c = true) →
      ∀ c ∈ behind mark part?, IsPrinted c := by
    intro mark part? hmark hpart c hc
    rcases mem_behind hc with rfl | ⟨t, ht, hct⟩
    · exact hmark
    · exact isPrinted_of_isAlphanumOr (by decide) (hpart t ht c hct)
  intro c hc
  unfold text tail at hc
  simp only [List.mem_append, List.mem_cons] at hc
  rcases hc with hc | rfl | rfl | rfl | hc | hc | hc | hc
  · exact isPrinted_of_isAsciiAlphanum (h.isAsciiAlphanum_scheme c hc)
  · decide
  · decide
  · decide
  · exact isPrinted_of_isAlphanumOr (by decide) (h.host c hc)
  · rcases h.mem_path hc with rfl | hc
    · decide
    · exact isPrinted_of_isAlphanumOr (by decide) hc
  · exact hquery (by decide) h.query c hc
  · exact hquery (by decide) h.fragment c hc

/-- The scheme ends at the first colon. -/
theorem splitScheme?_eq (h : a.IsPlain) :
    splitScheme? a.text
      = some (Text.lower a.scheme, '/' :: '/' :: (a.host ++ (a.path ++ a.tail))) := by
  obtain ⟨c, r, heq, hc, -⟩ := h.scheme
  have hscheme : ∀ d ∈ a.scheme, isSchemeChar d = true := fun d hd => by
    rw [isSchemeChar, h.isAsciiAlphanum_scheme d hd]
    rfl
  have hcolon : ∀ d ∈ (':' :: '/' :: '/' :: (a.host ++ (a.path ++ a.tail))).head?,
      isSchemeChar d = false := fun d hd => by
    obtain rfl := Option.some.inj hd
    decide
  obtain ⟨htake, hdrop⟩ := Text.takeWhile_and_dropWhile_append hscheme hcolon
  unfold splitScheme? text
  rw [htake, hdrop, heq]
  exact if_pos hc

/-- The authority is the host, between the slashes behind the scheme and the path. -/
theorem authority_eq (h : a.IsPlain) :
    ('/' :: '/' :: (a.host ++ (a.path ++ a.tail))).dropWhile isSlash = a.host ++ (a.path ++ a.tail) ∧
    (a.host ++ (a.path ++ a.tail)).takeWhile (fun c => !endsAuthority c) = a.host ∧
    (a.host ++ (a.path ++ a.tail)).dropWhile (fun c => !endsAuthority c) = a.path ++ a.tail := by
  have hhost : ∀ c ∈ a.host, endsAuthority c = false := by
    intro c hc
    have hne : ∀ d, isAlphanumOr hostMarks d = false → (c == d) = false := fun d hd =>
      beq_false_of_ne (ne_of_isAlphanumOr hd (h.host c hc))
    rw [endsAuthority, isSlash, hne '/' (by decide), hne '\\' (by decide), hne '?' (by decide),
      hne '#' (by decide)]
    rfl
  have hbody : ∀ c ∈ (a.host ++ (a.path ++ a.tail)).head?, isSlash c = false := by
    obtain ⟨d, r, heq⟩ := List.exists_cons_of_ne_nil h.host_ne_nil
    have hd := hhost d (heq ▸ List.mem_cons_self)
    rw [heq]
    intro c hc
    obtain rfl := Option.some.inj hc
    exact (Bool.or_eq_false_iff.mp (Bool.or_eq_false_iff.mp hd).1).1
  have hslashes : ∀ c ∈ ['/', '/'], isSlash c = true := List.all_eq_true.mp (by decide)
  refine ⟨(Text.takeWhile_and_dropWhile_append hslashes hbody).2, ?_⟩
  refine Text.takeWhile_and_dropWhile_append (fun c hc => by rw [hhost c hc]; rfl) fun c hc => ?_
  obtain rfl := Option.some.inj hc
  rfl

/-- The host is read in small letters. -/
theorem fold?_host (h : a.IsPlain) :
    (hostOf? a.host).bind Host.fold? = some (Text.lower a.host) := by
  have hne : ∀ d, isAlphanumOr hostMarks d = false → d ∉ a.host := fun d hd hmem =>
    ne_of_isAlphanumOr hd (h.host d hmem) rfl
  rw [hostOf?_of_not_mem (hne '@' (by decide)) (hne ':' (by decide)), Option.bind_some]
  exact fold?_of_isPrinted (hne '%' (by decide)) fun c hc =>
    isPrinted_of_isAlphanumOr (by decide) (h.host c hc)

/-- The path is read segment by segment. -/
theorem pathOf_eq (h : a.IsPlain) :
    pathOf (a.path ++ a.tail) = Text.splitOn '/' (Text.join ['/'] a.segments) := by
  have hne : ∀ d, d ≠ '/' → isAlphanumOr segmentMarks d = false → d ∉ a.path := fun d hslash hd hmem =>
    (h.mem_path hmem).elim hslash fun hc => ne_of_isAlphanumOr hd hc rfl
  have hpath : ∀ c ∈ a.path, (c != '?' && c != '#') = true := by
    intro c hc
    have hquery : c ≠ '?' := fun heq => hne '?' (by decide) (by decide) (heq ▸ hc)
    have hfragment : c ≠ '#' := fun heq => hne '#' (by decide) (by decide) (heq ▸ hc)
    rw [bne_iff_ne.mpr hquery, bne_iff_ne.mpr hfragment]
    rfl
  have htail : ∀ c ∈ a.tail.head?, (c != '?' && c != '#') = false := fun c hc => by
    rcases a.head?_tail c hc with rfl | rfl <;> rfl
  -- no piece between two slashes holds what could name another place
  have hpiece : ∀ d, d ≠ '/' → isAlphanumOr segmentMarks d = false →
      ∀ s ∈ Text.splitOn '/' (Text.join ['/'] a.segments), d ∉ s := by
    intro d hslash hd s hs hmem
    have hsep : d ∉ ['/'] := by simpa using hslash
    have hjoin := (Text.mem_join_iff hsep _).mpr ⟨s, hs, hmem⟩
    rw [Text.join_splitOn] at hjoin
    exact hne d hslash hd (List.mem_cons_of_mem '/' hjoin)
  have hbackslash : '\\' ∉ Text.join ['/'] a.segments := fun hmem =>
    hne '\\' (by decide) (by decide) (List.mem_cons_of_mem '/' hmem)
  have hresolve := resolve_eq (fun s hs =>
    ⟨hpiece '.' (by decide) (by decide) s hs, hpiece '%' (by decide) (by decide) s hs⟩) []
  rw [pathOf, (Text.takeWhile_and_dropWhile_append hpath htail).1]
  show resolve [] (Url.segments (Text.join ['/'] a.segments)) = _
  rw [segments_eq_splitOn hbackslash, hresolve]
  rfl

end IsPlain

end Address

/-- What stands behind `/share/`, if a path goes on there. -/
theorem exists_shareSegment_iff (a : Address) :
    (∃ r, r ≠ [] ∧ Text.join ['/'] a.segments = shareSegment ++ '/' :: r) ↔
      "/share/".toList <+: a.path ∧ "/share/".toList.length < a.path.length := by
  have hshare : "/share/".toList = '/' :: (shareSegment ++ ['/']) := by decide
  rw [hshare, Address.path, List.cons_prefix_cons]
  constructor
  · rintro ⟨r, hr, heq⟩
    rw [heq]
    refine ⟨⟨rfl, r, by simp⟩, ?_⟩
    have hlength := List.length_pos_of_ne_nil hr
    simp only [List.length_cons, List.length_append, List.length_nil]
    omega
  · rintro ⟨⟨-, r, heq⟩, hlength⟩
    refine ⟨r, ?_, by rw [← heq]; simp⟩
    rintro rfl
    rw [← heq, List.append_nil] at hlength
    exact absurd hlength (Nat.lt_irrefl _)

/-- A plain address, with white space around it, is that of a shared conversation if its scheme and its
host are the right ones up to the case of letters, and its path goes on behind `/share/`. -/
theorem isSharePage_iff {a : Address} (ha : a.IsPlain) {front back : Text}
    (hfront : Text.isBlank front = true) (hback : Text.isBlank back = true) :
    isSharePage (front ++ (a.text ++ back)) = true ↔
      Text.eqIgnoreCase a.scheme "https".toList = true ∧
      Text.eqIgnoreCase a.host "gemini.google.com".toList = true ∧
      "/share/".toList <+: a.path ∧ "/share/".toList.length < a.path.length := by
  have hne : a.text ≠ [] := by
    obtain ⟨c, r, heq, -⟩ := ha.scheme
    rw [Address.text, heq, List.cons_append]
    exact List.cons_ne_nil _ _
  -- the reader goes over the address once, and each of its parts is what it takes next
  obtain ⟨hbody, hauthority, hbehind⟩ := ha.authority_eq
  have hscheme : Text.lower "https".toList = "https".toList := by decide
  have hhost : Text.lower "gemini.google.com".toList = shareHost := by decide
  rw [isSharePage, trim_of_isPrinted hne ha.isPrinted hfront hback, clean_of_isPrinted ha.isPrinted,
    ha.splitScheme?_eq]
  dsimp only
  rw [hbody, hauthority, hbehind, ha.fold?_host, ha.pathOf_eq, Bool.and_eq_true, Bool.and_eq_true,
    isSharePath_splitOn_iff, exists_shareSegment_iff, and_assoc, Text.eqIgnoreCase, Text.eqIgnoreCase,
    hscheme, hhost, beq_iff_eq, beq_iff_eq, beq_iff_eq, Option.some_inj]

/-- An address in capitals, with a query and a fragment that name another site. -/
theorem isSharePage_capitals :
    let a : Address := ⟨"HTTPS".toList, "Gemini.GOOGLE.com".toList, ["share".toList, [], "3f2a_-".toList],
      some "hl=en&u=share".toList, some "app".toList⟩
    a.IsPlain ∧ Text.isBlank ['\u3000', '\n'] = true ∧ Text.isBlank [' '] = true ∧
      a.text = "HTTPS://Gemini.GOOGLE.com/share//3f2a_-?hl=en&u=share#app".toList ∧
      isSharePage (['\u3000', '\n'] ++ (a.text ++ [' '])) = true := by
  intro a
  have hsegments : ∀ s ∈ a.segments, s.all (isAlphanumOr segmentMarks) = true :=
    List.all_eq_true.mp (by decide)
  have ha : a.IsPlain := {
    scheme := ⟨'H', "TTPS".toList, by decide, by decide, List.all_eq_true.mp (by decide)⟩
    host_ne_nil := by decide
    host := List.all_eq_true.mp (by decide)
    segments := fun s hs => List.all_eq_true.mp (hsegments s hs)
    query := fun t ht => by
      obtain rfl := Option.some.inj ht
      exact List.all_eq_true.mp (by decide)
    fragment := fun t ht => by
      obtain rfl := Option.some.inj ht
      exact List.all_eq_true.mp (by decide) }
  have hblank : Text.isBlank ['\u3000', '\n'] = true ∧ Text.isBlank [' '] = true := by decide
  refine ⟨ha, hblank.1, hblank.2, by decide, (isSharePage_iff ha hblank.1 hblank.2).mpr ?_⟩
  refine ⟨by decide, by decide, ?_, by decide⟩
  exact ⟨"/3f2a_-".toList, by decide⟩

end ChatScribe.Url
