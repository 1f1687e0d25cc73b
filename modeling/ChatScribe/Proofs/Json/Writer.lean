import ChatScribe.Proofs.Json.Values

/-!
# Writing values

What the writer puts down for a value spells that value, so the reader gives the value back
(`read?_render`). That is so for every value whose strings are texts and whose numbers are spelled as
numbers; no other has a text at all.
-/

namespace ChatScribe.Json

/-- A value all of whose parts have a text. -/
inductive Writable : Json → Prop
  | null : Writable .null
  | bool (b : Bool) : Writable (.bool b)
  | num {n : Text} (h : IsNumber n) : Writable (.num n)
  | str (t : Text) : Writable (.str (some t))
  | arr {vs : List Json} (h : ∀ v ∈ vs, Writable v) : Writable (.arr vs)
  | obj {ms : List (Option Text × Json)} (hnames : ∀ m ∈ ms, m.1.isSome = true)
      (h : ∀ m ∈ ms, Writable m.2) : Writable (.obj ms)

theorem isGap_nil : IsGap [] := nofun

/-- The writer puts no space around a value. -/
theorem Spells.bare {v : Json} {s : Text} (h : Spells (.value v) s) : Spells (.padded v) s := by
  simpa using Spells.padded isGap_nil h isGap_nil

theorem spells_member {k : Option Text} {v : Json} {s : Text} (hk : k.isSome = true)
    (h : Spells (.value v) s) : Spells (.member k v) (quote? k ++ ':' :: s) := by
  obtain ⟨t, rfl⟩ := Option.isSome_iff_exists.mp hk
  simpa [quote?] using Spells.named isGap_nil (spellsString_quote t) isGap_nil h.bare

theorem spells_renderElements {vs : List Json} (hne : vs ≠ [])
    (h : ∀ v ∈ vs, Spells (.value v) v.render) : Spells (.elements vs) (renderElements vs) := by
  induction vs with
  | nil => exact absurd rfl hne
  | cons v vs ih =>
    obtain ⟨hv, hvs⟩ := List.forall_mem_cons.mp h
    cases vs with
    | nil => exact .element hv.bare
    | cons w vs => exact .elements hv.bare (ih (List.cons_ne_nil _ _) hvs)

theorem spells_renderMembers {ms : List (Option Text × Json)} (hne : ms ≠ [])
    (hnames : ∀ m ∈ ms, m.1.isSome = true) (h : ∀ m ∈ ms, Spells (.value m.2) m.2.render) :
    Spells (.members ms) (renderMembers ms) := by
  induction ms with
  | nil => exact absurd rfl hne
  | cons m ms ih =>
    obtain ⟨k, v⟩ := m
    obtain ⟨hk, hks⟩ := List.forall_mem_cons.mp hnames
    obtain ⟨hv, hvs⟩ := List.forall_mem_cons.mp h
    cases ms with
    | nil => exact .member (spells_member hk hv)
    | cons m ms =>
      rw [renderMembers]
      simpa using Spells.members (spells_member hk hv) (ih (List.cons_ne_nil _ _) hks hvs)

theorem spells_render {v : Json} (h : Writable v) : Spells (.value v) v.render := by
  induction h with
  | null => exact .null
  | bool b =>
    cases b with
    | false => exact .false
    | true => exact .true
  | num h => exact .num h
  | str t => exact .str (spellsString_quote t)
  | @arr vs h ih =>
    cases vs with
    | nil => exact .emptyArr isGap_nil
    | cons v vs => exact .arr (spells_renderElements (List.cons_ne_nil _ _) ih)
  | @obj ms hnames h ih =>
    cases ms with
    | nil => exact .emptyObj isGap_nil
    | cons m ms => exact .obj (spells_renderMembers (List.cons_ne_nil _ _) hnames ih)

/-- The reader gives back what was written. -/
theorem read?_render {v : Json} (h : Writable v) : read? v.render = some v :=
  read?_eq_some_iff.mpr (spells_render h).bare

end ChatScribe.Json
