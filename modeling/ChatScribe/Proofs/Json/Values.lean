import ChatScribe.Proofs.Json.Numbers
import ChatScribe.Proofs.Json.Strings
import ChatScribe.Proofs.Text.Lines

/-!
# How values are spelled in JSON

`Spells` is the grammar of JSON texts. A derivation of it names a value, the elements of an array or the
members of an object together with the whole text that spells them, and speaks of no reader. The reader
takes a text for a value exactly if the text spells it (`read?_eq_some_iff`), so no text spells two, and
it reads back what the writer writes (`read?_render`).
-/

namespace ChatScribe.Json

/-! ## The grammar -/

/-- White space, possibly none. -/
def IsGap (g : Text) : Prop := ∀ c ∈ g, isSpace c = true

/-- What a part of a JSON text can spell. -/
inductive Part
  | value (v : Json)
  | padded (v : Json)
  | elements (vs : List Json)
  | member (k : Option Text) (v : Json)
  | members (ms : List (Option Text × Json))

/-- The parts of JSON texts. White space may stand around every value and every name, and only there and
between the brackets of what is empty. -/
inductive Spells : Part → Text → Prop
  | null : Spells (.value .null) "null".toList
  | true : Spells (.value (.bool .true)) "true".toList
  | false : Spells (.value (.bool .false)) "false".toList
  | num {n : Text} (h : IsNumber n) : Spells (.value (.num n)) n
  | str {content : Option Text} {s : Text} (h : SpellsString content s) :
      Spells (.value (.str content)) s
  | emptyArr {g : Text} (hg : IsGap g) : Spells (.value (.arr [])) ('[' :: (g ++ [']']))
  | arr {vs : List Json} {s : Text} (h : Spells (.elements vs) s) :
      Spells (.value (.arr vs)) ('[' :: (s ++ [']']))
  | emptyObj {g : Text} (hg : IsGap g) : Spells (.value (.obj [])) ('\x7b' :: (g ++ ['\x7d']))
  | obj {ms : List (Option Text × Json)} {s : Text} (h : Spells (.members ms) s) :
      Spells (.value (.obj ms)) ('\x7b' :: (s ++ ['\x7d']))
  | padded {v : Json} {front s back : Text} (hfront : IsGap front) (h : Spells (.value v) s)
      (hback : IsGap back) : Spells (.padded v) (front ++ s ++ back)
  | element {v : Json} {s : Text} (h : Spells (.padded v) s) : Spells (.elements [v]) s
  | elements {v : Json} {vs : List Json} {s r : Text} (h : Spells (.padded v) s)
      (hr : Spells (.elements vs) r) : Spells (.elements (v :: vs)) (s ++ ',' :: r)
  | named {k : Option Text} {v : Json} {front name back s : Text} (hfront : IsGap front)
      (hname : SpellsString k name) (hback : IsGap back) (h : Spells (.padded v) s) :
      Spells (.member k v) (front ++ name ++ back ++ ':' :: s)
  | member {k : Option Text} {v : Json} {s : Text} (h : Spells (.member k v) s) :
      Spells (.members [(k, v)]) s
  | members {k : Option Text} {v : Json} {ms : List (Option Text × Json)} {s r : Text}
      (h : Spells (.member k v) s) (hr : Spells (.members ms) r) :
      Spells (.members ((k, v) :: ms)) (s ++ ',' :: r)

/-! ## White space -/

theorem exists_gap (t : Text) : ∃ g, IsGap g ∧ t = g ++ skipSpace t :=
  ⟨t.takeWhile isSpace, fun _ hc => List.all_eq_true.mp List.all_takeWhile _ hc,
    List.takeWhile_append_dropWhile.symm⟩

theorem IsGap.append {g g' : Text} (h : IsGap g) (h' : IsGap g') : IsGap (g ++ g') := fun c hc =>
  (List.mem_append.mp hc).elim (h c) (h' c)

theorem skipSpace_gap {g : Text} (h : IsGap g) (t : Text) : skipSpace (g ++ t) = skipSpace t :=
  List.dropWhile_append_of_pos h

theorem skipSpace_of_notNext {t : Text} (h : NotNext (isSpace · = true) t) : skipSpace t = t := by
  cases t with
  | nil => rfl
  | cons c r => exact List.dropWhile_cons_of_neg (notNext_cons.mp h)

theorem skipSpace_skipSpace (t : Text) : skipSpace (skipSpace t) = skipSpace t :=
  Text.dropWhile_dropWhile isSpace t

theorem isSpace_iff {c : Char} : isSpace c = true ↔ c = ' ' ∨ c = '\t' ∨ c = '\n' ∨ c = '\r' := by
  simp [isSpace, or_assoc]

/-- White space does not go on as a number would. -/
theorem EndsNumber.gap_append {g t : Text} (hg : IsGap g) (ht : EndsNumber t) : EndsNumber (g ++ t) := by
  cases g with
  | nil => exact ht
  | cons c r =>
    refine notNext_cons.mpr ?_
    obtain rfl | rfl | rfl | rfl := isSpace_iff.mp (hg c (List.mem_cons_self ..)) <;> decide

/-- Space around a value belongs to what is around it. -/
theorem Spells.gap_append {p : Part} {g s : Text} (hp : ∀ v, p ≠ .value v) (hg : IsGap g)
    (h : Spells p s) : Spells p (g ++ s) := by
  induction h with
  | padded hfront h hback =>
    rw [← List.append_assoc, ← List.append_assoc]
    exact .padded (hg.append hfront) h hback
  | element h ih => exact .element (ih nofun)
  | elements h hr ih ihr =>
    rw [← List.append_assoc]
    exact .elements (ih nofun) hr
  | named hfront hname hback h ih =>
    rw [← List.append_assoc, ← List.append_assoc, ← List.append_assoc]
    exact .named (hg.append hfront) hname hback h
  | member h ih => exact .member (ih nofun)
  | members h hr ih ihr =>
    rw [← List.append_assoc]
    exact .members (ih nofun) hr
  | _ => exact absurd rfl (hp _)

/-! ## The steps of the reader -/

section

variable {fuel : Nat} {t rest : Text}

/-- An element, and a bracket or a comma and more elements behind it. -/
theorem readElements_succ_eq_some_iff {vs : List Json} :
    readElements (fuel + 1) t = some (vs, rest) ↔
      ∃ v r, readValue fuel (skipSpace t) = some (v, r) ∧
        (skipSpace r = ']' :: rest ∧ vs = [v] ∨
          ∃ r' vs', skipSpace r = ',' :: r' ∧ readElements fuel r' = some (vs', rest) ∧ vs = v :: vs') := by
  rw [readElements]
  constructor
  · intro h
    split at h
    · cases h
    · rename_i v r hvalue
      refine ⟨v, r, hvalue, ?_⟩
      split at h
      · rename_i r' hend
        obtain ⟨rfl, rfl⟩ := Prod.mk.inj (Option.some.inj h)
        exact .inl ⟨hend, rfl⟩
      · rename_i r' hcomma
        obtain ⟨⟨vs', r''⟩, helements, heq⟩ := Option.map_eq_some_iff.mp h
        obtain ⟨rfl, rfl⟩ := Prod.mk.inj heq
        exact .inr ⟨r', vs', hcomma, helements, rfl⟩
      · cases h
  · rintro ⟨v, r, hvalue, ⟨hend, rfl⟩ | ⟨r', vs', hcomma, helements, rfl⟩⟩
    · simp only [hvalue, hend]
    · simp only [hvalue, hcomma, helements, Option.map_some]

/-- The reader finds a name, a colon and a value at the front of `t`, and `rest` behind them. -/
def FindsMember (fuel : Nat) (t : Text) (k : Option Text) (v : Json) (rest : Text) : Prop :=
  ∃ r r' r'', skipSpace t = '"' :: r ∧ readString r = some (k, r') ∧ skipSpace r' = ':' :: r'' ∧
    readValue fuel (skipSpace r'') = some (v, rest)

/-- A member, and a brace or a comma and more members behind it. -/
theorem readMembers_succ_eq_some_iff {ms : List (Option Text × Json)} :
    readMembers (fuel + 1) t = some (ms, rest) ↔
      ∃ k v r, FindsMember fuel t k v r ∧
        (skipSpace r = '\x7d' :: rest ∧ ms = [(k, v)] ∨
          ∃ r' ms', skipSpace r = ',' :: r' ∧ readMembers fuel r' = some (ms', rest) ∧
            ms = (k, v) :: ms') := by
  rw [readMembers]
  constructor
  · intro h
    split at h
    · rename_i r hquote
      split at h
      · cases h
      · rename_i k r' hname
        split at h
        · rename_i r'' hcolon
          split at h
          · cases h
          · rename_i v r''' hvalue
            refine ⟨k, v, r''', ⟨r, r', r'', hquote, hname, hcolon, hvalue⟩, ?_⟩
            split at h
            · rename_i hend
              obtain ⟨rfl, rfl⟩ := Prod.mk.inj (Option.some.inj h)
              exact .inl ⟨hend, rfl⟩
            · rename_i hcomma
              obtain ⟨⟨ms', x⟩, hmembers, heq⟩ := Option.map_eq_some_iff.mp h
              obtain ⟨rfl, rfl⟩ := Prod.mk.inj heq
              exact .inr ⟨_, ms', hcomma, hmembers, rfl⟩
            · cases h
        · cases h
    · cases h
  · rintro ⟨k, v, r, ⟨r₁, r₂, r₃, hquote, hname, hcolon, hvalue⟩,
      ⟨hend, rfl⟩ | ⟨r', ms', hcomma, hmembers, rfl⟩⟩
    · simp only [hquote, hname, hcolon, hvalue, hend]
    · simp only [hquote, hname, hcolon, hvalue, hcomma, hmembers, Option.map_some]

theorem readElements_skipSpace (fuel : Nat) (t : Text) :
    readElements fuel (skipSpace t) = readElements fuel t := by
  cases fuel with
  | zero => rfl
  | succ fuel => rw [readElements, readElements, skipSpace_skipSpace]

theorem readMembers_skipSpace (fuel : Nat) (t : Text) :
    readMembers fuel (skipSpace t) = readMembers fuel t := by
  cases fuel with
  | zero => rfl
  | succ fuel => rw [readMembers, readMembers, skipSpace_skipSpace]

/-- An array in which something stands. -/
theorem readValue_bracket {c : Char} {r : Text} (ht : skipSpace t = c :: r) (hc : c ≠ ']') :
    readValue (fuel + 1) ('[' :: t)
      = (readElements fuel t).map fun (es, rest) => (.arr es, rest) := by
  rw [readValue, ht]
  split
  · rename_i heq
    exact absurd (List.cons.inj heq).1 hc
  · rw [← ht, readElements_skipSpace]

/-- An object in which something stands. -/
theorem readValue_brace {c : Char} {r : Text} (ht : skipSpace t = c :: r) (hc : c ≠ '\x7d') :
    readValue (fuel + 1) ('\x7b' :: t)
      = (readMembers fuel t).map fun (ms, rest) => (.obj ms, rest) := by
  rw [readValue, ht]
  split
  · rename_i heq
    exact absurd (List.cons.inj heq).1 hc
  · rw [← ht, readMembers_skipSpace]

/-- What starts as a number is read as one. -/
theorem readValue_of_number {c : Char} (hc : c = '-' ∨ Text.isAsciiDigit c = true) (r : Text) :
    readValue (fuel + 1) (c :: r) = (readNumber (c :: r)).map fun (n, rest) => (.num n, rest) := by
  rw [readValue]
  all_goals
    intro r' heq
    rw [(List.cons.inj heq).1] at hc
    revert hc
    decide

end

/-! ## What the reader takes -/

section

variable {fuel : Nat} {t rest : Text}

/-- Whatever the reader takes with so much fuel spells what it is taken for. -/
structure Takes (fuel : Nat) : Prop where
  value {t rest : Text} {v : Json} (h : readValue fuel t = some (v, rest)) :
    ∃ s, Spells (.value v) s ∧ t = s ++ rest
  elements {t rest : Text} {vs : List Json} (h : readElements fuel t = some (vs, rest)) :
    ∃ s, Spells (.elements vs) s ∧ t = s ++ ']' :: rest
  members {t rest : Text} {ms : List (Option Text × Json)} (h : readMembers fuel t = some (ms, rest)) :
    ∃ s, Spells (.members ms) s ∧ t = s ++ '\x7d' :: rest

/-- The space around a value is taken with it. -/
theorem Takes.padded (hfuel : Takes fuel) {v : Json}
    (h : readValue fuel (skipSpace t) = some (v, rest)) :
    ∃ s, Spells (.padded v) s ∧ t = s ++ skipSpace rest := by
  obtain ⟨s, hs, heq⟩ := hfuel.value h
  obtain ⟨front, hfront, ht⟩ := exists_gap t
  obtain ⟨back, hback, hr⟩ := exists_gap rest
  refine ⟨_, .padded hfront hs hback, ?_⟩
  rw [ht, heq, List.append_assoc, List.append_assoc, ← hr]

theorem Takes.bracket (hfuel : Takes fuel) {v : Json}
    (h : readValue (fuel + 1) ('[' :: t) = some (v, rest)) :
    ∃ s, Spells (.value v) s ∧ '[' :: t = s ++ rest := by
  rw [readValue] at h
  obtain ⟨g, hg, ht⟩ := exists_gap t
  split at h
  · rename_i r hempty
    obtain ⟨rfl, rfl⟩ := Prod.mk.inj (Option.some.inj h)
    refine ⟨_, .emptyArr hg, ?_⟩
    rw [ht, hempty]
    simp
  · obtain ⟨⟨vs, r⟩, helements, heq⟩ := Option.map_eq_some_iff.mp h
    obtain ⟨rfl, rfl⟩ := Prod.mk.inj heq
    obtain ⟨s, hs, hbehind⟩ := hfuel.elements helements
    refine ⟨_, .arr (hs.gap_append nofun hg), ?_⟩
    rw [ht, hbehind]
    simp

theorem Takes.brace (hfuel : Takes fuel) {v : Json}
    (h : readValue (fuel + 1) ('\x7b' :: t) = some (v, rest)) :
    ∃ s, Spells (.value v) s ∧ '\x7b' :: t = s ++ rest := by
  rw [readValue] at h
  obtain ⟨g, hg, ht⟩ := exists_gap t
  split at h
  · rename_i r hempty
    obtain ⟨rfl, rfl⟩ := Prod.mk.inj (Option.some.inj h)
    refine ⟨_, .emptyObj hg, ?_⟩
    rw [ht, hempty]
    simp
  · obtain ⟨⟨ms, r⟩, hmembers, heq⟩ := Option.map_eq_some_iff.mp h
    obtain ⟨rfl, rfl⟩ := Prod.mk.inj heq
    obtain ⟨s, hs, hbehind⟩ := hfuel.members hmembers
    refine ⟨_, .obj (hs.gap_append nofun hg), ?_⟩
    rw [ht, hbehind]
    simp

theorem Takes.value_succ (hfuel : Takes fuel) {v : Json}
    (h : readValue (fuel + 1) t = some (v, rest)) : ∃ s, Spells (.value v) s ∧ t = s ++ rest := by
  have hread := h
  unfold readValue at h
  split at h
  · obtain ⟨rfl, rfl⟩ := Prod.mk.inj (Option.some.inj h)
    exact ⟨_, .null, rfl⟩
  · obtain ⟨rfl, rfl⟩ := Prod.mk.inj (Option.some.inj h)
    exact ⟨_, .true, rfl⟩
  · obtain ⟨rfl, rfl⟩ := Prod.mk.inj (Option.some.inj h)
    exact ⟨_, .false, rfl⟩
  · obtain ⟨⟨content, r⟩, hstring, heq⟩ := Option.map_eq_some_iff.mp h
    obtain ⟨rfl, rfl⟩ := Prod.mk.inj heq
    obtain ⟨s, hs, ht⟩ := readString_eq_some_iff.mp hstring
    exact ⟨s, .str hs, ht⟩
  · exact hfuel.bracket hread
  · exact hfuel.brace hread
  · -- what starts otherwise can only be a number
    obtain ⟨⟨n, r⟩, hnumber, heq⟩ := Option.map_eq_some_iff.mp h
    obtain ⟨rfl, rfl⟩ := Prod.mk.inj heq
    obtain ⟨hn, rfl⟩ := isNumber_of_readNumber hnumber
    exact ⟨n, .num hn, rfl⟩

theorem Takes.elements_succ (hfuel : Takes fuel) {vs : List Json}
    (h : readElements (fuel + 1) t = some (vs, rest)) :
    ∃ s, Spells (.elements vs) s ∧ t = s ++ ']' :: rest := by
  obtain ⟨v, r, hvalue, hbehind⟩ := readElements_succ_eq_some_iff.mp h
  obtain ⟨s, hs, rfl⟩ := hfuel.padded hvalue
  obtain ⟨hend, rfl⟩ | ⟨r', vs', hcomma, helements, rfl⟩ := hbehind
  · exact ⟨s, .element hs, by rw [hend]⟩
  · obtain ⟨s', hs', rfl⟩ := hfuel.elements helements
    exact ⟨_, .elements hs hs', by rw [hcomma, List.append_assoc, List.cons_append]⟩

theorem Takes.member (hfuel : Takes fuel) {k : Option Text} {v : Json}
    (h : FindsMember fuel t k v rest) : ∃ s, Spells (.member k v) s ∧ t = s ++ skipSpace rest := by
  obtain ⟨r, r', r'', hquote, hname, hcolon, hvalue⟩ := h
  obtain ⟨front, hfront, ht⟩ := exists_gap t
  obtain ⟨name, hname, hr⟩ := readString_eq_some_iff.mp hname
  obtain ⟨back, hback, hr'⟩ := exists_gap r'
  obtain ⟨s, hs, hr''⟩ := hfuel.padded hvalue
  refine ⟨_, .named hfront hname hback hs, ?_⟩
  calc t = front ++ (name ++ (back ++ ':' :: (s ++ skipSpace rest))) := by
        rw [← hr'', ← hcolon, ← hr', ← hr, ← hquote, ← ht]
    _ = front ++ name ++ back ++ ':' :: s ++ skipSpace rest := by simp

theorem Takes.members_succ (hfuel : Takes fuel) {ms : List (Option Text × Json)}
    (h : readMembers (fuel + 1) t = some (ms, rest)) :
    ∃ s, Spells (.members ms) s ∧ t = s ++ '\x7d' :: rest := by
  obtain ⟨k, v, r, hfound, hbehind⟩ := readMembers_succ_eq_some_iff.mp h
  obtain ⟨s, hs, rfl⟩ := hfuel.member hfound
  obtain ⟨hend, rfl⟩ | ⟨r', ms', hcomma, hmembers, rfl⟩ := hbehind
  · exact ⟨s, .member hs, by rw [hend]⟩
  · obtain ⟨s', hs', rfl⟩ := hfuel.members hmembers
    exact ⟨_, .members hs hs', by rw [hcomma, List.append_assoc, List.cons_append]⟩

end

theorem takes (fuel : Nat) : Takes fuel := by
  -- on the fuel, since the readers of values, elements and members call each other with less of it
  induction fuel with
  | zero => exact ⟨nofun, nofun, nofun⟩
  | succ fuel ih => exact ⟨ih.value_succ, ih.elements_succ, ih.members_succ⟩

/-! ## What is read -/

/-- A character with which no white space starts and nothing closes. -/
def Opens (c : Char) : Prop := isSpace c = false ∧ c ≠ ']' ∧ c ≠ '\x7d'

theorem opens_of_number {c : Char} (h : c = '-' ∨ Text.isAsciiDigit c = true) : Opens c := by
  refine ⟨Bool.eq_false_iff.mpr fun hspace => ?_, ?_, ?_⟩
  · obtain rfl | rfl | rfl | rfl := isSpace_iff.mp hspace <;> exact absurd h (by decide)
  · rintro rfl
    exact absurd h (by decide)
  · rintro rfl
    exact absurd h (by decide)

theorem IsNumber.exists_cons {n : Text} (h : IsNumber n) :
    ∃ c r, n = c :: r ∧ (c = '-' ∨ Text.isAsciiDigit c = true) := by
  cases h with
  | plus h =>
    obtain ⟨d, r, rfl, hd⟩ := h.exists_cons
    exact ⟨d, r, rfl, .inr hd⟩
  | minus h => exact ⟨_, _, rfl, .inl rfl⟩

theorem SpellsString.exists_cons {content : Option Text} {s : Text} (h : SpellsString content s) :
    ∃ r, s = '"' :: r := by
  obtain ⟨ps, inner, -, rfl, -⟩ := h
  exact ⟨_, rfl⟩

theorem Spells.exists_cons {v : Json} {s : Text} (h : Spells (.value v) s) :
    ∃ c r, s = c :: r ∧ Opens c := by
  cases h with
  | num h =>
    obtain ⟨c, r, rfl, hc⟩ := h.exists_cons
    exact ⟨c, r, rfl, opens_of_number hc⟩
  | str h =>
    obtain ⟨r, rfl⟩ := h.exists_cons
    exact ⟨_, r, rfl, by decide, by decide, by decide⟩
  | _ => exact ⟨_, _, rfl, by decide, by decide, by decide⟩

theorem skipSpace_of_opens {c : Char} (h : Opens c) (r : Text) : skipSpace (c :: r) = c :: r :=
  List.dropWhile_cons_of_neg (by simp [h.1])

theorem Spells.skipSpace_padded {v : Json} {s : Text} (h : Spells (.padded v) s) (x : Text) :
    ∃ c r, skipSpace (s ++ x) = c :: r ∧ Opens c := by
  cases h with
  | @padded _ front s back hfront h hback =>
    obtain ⟨c, r, rfl, hc⟩ := h.exists_cons
    refine ⟨c, r ++ (back ++ x), ?_, hc⟩
    rw [List.append_assoc, List.append_assoc, skipSpace_gap hfront, List.cons_append,
      skipSpace_of_opens hc]

theorem Spells.skipSpace_elements {vs : List Json} {s : Text} (h : Spells (.elements vs) s) (x : Text) :
    ∃ c r, skipSpace (s ++ x) = c :: r ∧ Opens c := by
  cases h with
  | element h => exact h.skipSpace_padded x
  | elements h hr =>
    rw [List.append_assoc]
    exact h.skipSpace_padded _

theorem Spells.skipSpace_member {k : Option Text} {v : Json} {s : Text} (h : Spells (.member k v) s)
    (x : Text) : ∃ r, skipSpace (s ++ x) = '"' :: r := by
  cases h with
  | named hfront hname hback h =>
    obtain ⟨r, rfl⟩ := hname.exists_cons
    simp only [List.append_assoc, List.cons_append]
    rw [skipSpace_gap hfront, skipSpace_of_opens ⟨by decide, by decide, by decide⟩]
    exact ⟨_, rfl⟩

theorem Spells.skipSpace_members {ms : List (Option Text × Json)} {s : Text}
    (h : Spells (.members ms) s) (x : Text) : ∃ r, skipSpace (s ++ x) = '"' :: r := by
  cases h with
  | member h => exact h.skipSpace_member x
  | members h hr =>
    rw [List.append_assoc]
    exact h.skipSpace_member _

/-- With fuel twice the length of what spells a part, the reader takes the part, whatever follows it. -/
def Reads : Part → Text → Prop
  | .value v, s => ∀ fuel rest, 2 * s.length ≤ fuel → EndsNumber rest →
      readValue fuel (s ++ rest) = some (v, rest)
  | .padded v, s => ∀ fuel rest, 2 * s.length ≤ fuel → EndsNumber rest →
      NotNext (isSpace · = true) rest →
      ∃ r, readValue fuel (skipSpace (s ++ rest)) = some (v, r) ∧ skipSpace r = rest
  | .elements vs, s => ∀ fuel rest, 2 * s.length < fuel →
      readElements fuel (s ++ ']' :: rest) = some (vs, rest)
  | .member k v, s => ∀ fuel rest, 2 * s.length ≤ fuel → EndsNumber rest →
      NotNext (isSpace · = true) rest →
      ∃ r, FindsMember fuel (s ++ rest) k v r ∧ skipSpace r = rest
  | .members ms, s => ∀ fuel rest, 2 * s.length < fuel →
      readMembers fuel (s ++ '\x7d' :: rest) = some (ms, rest)

/-- A value is read with some fuel if it is read with a bit more than that. -/
theorem Reads.of_succ {v : Json} {c : Char} {s : Text}
    (h : ∀ fuel rest, 2 * s.length ≤ fuel → EndsNumber rest →
      readValue (fuel + 1) (c :: (s ++ rest)) = some (v, rest)) : Reads (.value v) (c :: s) := by
  intro fuel rest hfuel hrest
  rw [List.length_cons] at hfuel
  obtain ⟨fuel, rfl⟩ : ∃ n, fuel = n + 1 := ⟨fuel - 1, by omega⟩
  exact h fuel rest (by omega) hrest

theorem reads_num {n : Text} (h : IsNumber n) : Reads (.value (.num n)) n := by
  obtain ⟨c, r, rfl, hc⟩ := h.exists_cons
  refine .of_succ fun fuel rest _ hrest => ?_
  rw [readValue_of_number hc, ← List.cons_append, readNumber_append h hrest, Option.map_some]

theorem reads_str {content : Option Text} {s : Text} (h : SpellsString content s) :
    Reads (.value (.str content)) s := by
  obtain ⟨r, rfl⟩ := h.exists_cons
  refine .of_succ fun fuel rest _ _ => ?_
  have hread : readString (r ++ rest) = some (content, rest) :=
    readString_eq_some_iff.mpr ⟨_, h, rfl⟩
  rw [readValue, hread, Option.map_some]

theorem Reads.arr {vs : List Json} {s : Text} (h : Spells (.elements vs) s)
    (ih : Reads (.elements vs) s) : Reads (.value (.arr vs)) ('[' :: (s ++ [']'])) := by
  refine .of_succ fun fuel rest hfuel _ => ?_
  rw [List.length_append, List.length_singleton] at hfuel
  obtain ⟨c, r, hskip, hc⟩ := h.skipSpace_elements (']' :: rest)
  rw [List.append_assoc, List.singleton_append, readValue_bracket hskip hc.2.1,
    ih fuel rest (by omega), Option.map_some]

theorem Reads.obj {ms : List (Option Text × Json)} {s : Text} (h : Spells (.members ms) s)
    (ih : Reads (.members ms) s) : Reads (.value (.obj ms)) ('\x7b' :: (s ++ ['\x7d'])) := by
  refine .of_succ fun fuel rest hfuel _ => ?_
  rw [List.length_append, List.length_singleton] at hfuel
  obtain ⟨r, hskip⟩ := h.skipSpace_members ('\x7d' :: rest)
  rw [List.append_assoc, List.singleton_append, readValue_brace hskip (by decide),
    ih fuel rest (by omega), Option.map_some]

theorem Reads.padded {v : Json} {front s back : Text} (hfront : IsGap front)
    (h : Spells (.value v) s) (hback : IsGap back) (ih : Reads (.value v) s) :
    Reads (.padded v) (front ++ s ++ back) := by
  intro fuel rest hfuel hrest hspace
  rw [List.length_append, List.length_append] at hfuel
  obtain ⟨c, r, rfl, hc⟩ := h.exists_cons
  refine ⟨back ++ rest, ?_, by rw [skipSpace_gap hback, skipSpace_of_notNext hspace]⟩
  rw [List.append_assoc, List.append_assoc, skipSpace_gap hfront, List.cons_append,
    skipSpace_of_opens hc, ← List.cons_append]
  exact ih fuel (back ++ rest) (by omega) (hrest.gap_append hback)

theorem Reads.element {v : Json} {s : Text} (ih : Reads (.padded v) s) : Reads (.elements [v]) s := by
  intro fuel rest hfuel
  obtain ⟨fuel, rfl⟩ : ∃ n, fuel = n + 1 := ⟨fuel - 1, by omega⟩
  obtain ⟨r, hvalue, hr⟩ := ih fuel (']' :: rest) (by omega) (notNext_cons.mpr (by decide))
    (notNext_cons.mpr (by decide))
  exact readElements_succ_eq_some_iff.mpr ⟨v, r, hvalue, .inl ⟨hr, rfl⟩⟩

theorem Reads.elements {v : Json} {vs : List Json} {s r : Text} (ih : Reads (.padded v) s)
    (ihr : Reads (.elements vs) r) : Reads (.elements (v :: vs)) (s ++ ',' :: r) := by
  intro fuel rest hfuel
  rw [List.length_append, List.length_cons] at hfuel
  obtain ⟨fuel, rfl⟩ : ∃ n, fuel = n + 1 := ⟨fuel - 1, by omega⟩
  obtain ⟨x, hvalue, hx⟩ := ih fuel (',' :: (r ++ ']' :: rest)) (by omega)
    (notNext_cons.mpr (by decide)) (notNext_cons.mpr (by decide))
  rw [List.append_assoc, List.cons_append]
  exact readElements_succ_eq_some_iff.mpr
    ⟨v, x, hvalue, .inr ⟨_, vs, hx, ihr fuel rest (by omega), rfl⟩⟩

theorem Reads.named {k : Option Text} {v : Json} {front name back s : Text} (hfront : IsGap front)
    (hname : SpellsString k name) (hback : IsGap back) (ih : Reads (.padded v) s) :
    Reads (.member k v) (front ++ name ++ back ++ ':' :: s) := by
  intro fuel rest hfuel hrest hspace
  simp only [List.length_append, List.length_cons] at hfuel
  obtain ⟨r, hvalue, hr⟩ := ih fuel rest (by omega) hrest hspace
  obtain ⟨inner, rfl⟩ := hname.exists_cons
  refine ⟨r, ⟨inner ++ (back ++ ':' :: (s ++ rest)), back ++ ':' :: (s ++ rest), s ++ rest, ?_, ?_, ?_,
    hvalue⟩, hr⟩
  · simp only [List.append_assoc, List.cons_append]
    rw [skipSpace_gap hfront, skipSpace_of_opens ⟨by decide, by decide, by decide⟩]
  · exact readString_eq_some_iff.mpr ⟨_, hname, rfl⟩
  · rw [skipSpace_gap hback, skipSpace_of_opens ⟨by decide, by decide, by decide⟩]

theorem Reads.member {k : Option Text} {v : Json} {s : Text} (ih : Reads (.member k v) s) :
    Reads (.members [(k, v)]) s := by
  intro fuel rest hfuel
  obtain ⟨fuel, rfl⟩ : ∃ n, fuel = n + 1 := ⟨fuel - 1, by omega⟩
  obtain ⟨r, hfound, hr⟩ := ih fuel ('\x7d' :: rest) (by omega) (notNext_cons.mpr (by decide))
    (notNext_cons.mpr (by decide))
  exact readMembers_succ_eq_some_iff.mpr ⟨k, v, r, hfound, .inl ⟨hr, rfl⟩⟩

theorem Reads.members {k : Option Text} {v : Json} {ms : List (Option Text × Json)} {s r : Text}
    (ih : Reads (.member k v) s) (ihr : Reads (.members ms) r) :
    Reads (.members ((k, v) :: ms)) (s ++ ',' :: r) := by
  intro fuel rest hfuel
  rw [List.length_append, List.length_cons] at hfuel
  obtain ⟨fuel, rfl⟩ : ∃ n, fuel = n + 1 := ⟨fuel - 1, by omega⟩
  obtain ⟨x, hfound, hx⟩ := ih fuel (',' :: (r ++ '\x7d' :: rest)) (by omega)
    (notNext_cons.mpr (by decide)) (notNext_cons.mpr (by decide))
  rw [List.append_assoc, List.cons_append]
  exact readMembers_succ_eq_some_iff.mpr
    ⟨k, v, x, hfound, .inr ⟨_, ms, hx, ihr fuel rest (by omega), rfl⟩⟩

theorem reads_of_spells {p : Part} {s : Text} (h : Spells p s) : Reads p s := by
  -- each part is shorter by a character at least than what it is a part of, which pays for two calls
  induction h with
  | null => exact .of_succ fun _ _ _ _ => rfl
  | true => exact .of_succ fun _ _ _ _ => rfl
  | false => exact .of_succ fun _ _ _ _ => rfl
  | num h => exact reads_num h
  | str h => exact reads_str h
  | emptyArr hg =>
    refine .of_succ fun fuel rest _ _ => ?_
    rw [readValue, List.append_assoc, skipSpace_gap hg]
    rfl
  | arr h ih => exact .arr h ih
  | emptyObj hg =>
    refine .of_succ fun fuel rest _ _ => ?_
    rw [readValue, List.append_assoc, skipSpace_gap hg]
    rfl
  | obj h ih => exact .obj h ih
  | padded hfront h hback ih => exact .padded hfront h hback ih
  | element h ih => exact .element ih
  | elements h hr ih ihr => exact .elements ih ihr
  | named hfront hname hback h ih => exact .named hfront hname hback ih
  | member h ih => exact .member ih
  | members h hr ih ihr => exact .members ih ihr

/-! ## Whole texts -/

/-- The reader takes a text for a value exactly if the text spells it. -/
theorem read?_eq_some_iff {t : Text} {v : Json} : read? t = some v ↔ Spells (.padded v) t := by
  unfold read?
  constructor
  · intro h
    split at h
    · rename_i w rest hvalue
      split_ifs at h with hempty
      obtain rfl := Option.some.inj h
      obtain ⟨s, hs, ht⟩ := (takes _).padded hvalue
      rw [List.isEmpty_iff.mp hempty, List.append_nil] at ht
      rwa [ht]
    · cases h
  · intro h
    obtain ⟨r, hvalue, hr⟩ := reads_of_spells h (2 * t.length + 2) [] (by omega) nofun nofun
    rw [List.append_nil] at hvalue
    simp only [hvalue, hr, List.isEmpty_nil, if_true]

end ChatScribe.Json
