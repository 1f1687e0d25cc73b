import ChatScribe.Proofs.Json.Writer
import ChatScribe.Response

/-!
# Answers there and back

`Stands` lists the JSON values that stand for an answer. Together with the grammar of JSON it says, without
a reader, which texts are answers and what they answer. Every answer is among the readings of its own text,
whatever characters the conversation has, so reading and writing again changes nothing.
-/

namespace ChatScribe.Response

/-! ## Values that stand for an answer -/

/-- What the member can hold. -/
inductive Holds : Json → Option Text → Prop
  | null : Holds .null none
  | text (t : Text) : Holds (.str (some t)) (some t)

/-- Members whose names are texts, none of them the one of an answer. -/
def Foreign (ms : List (Option Text × Json)) : Prop :=
  ∀ m ∈ ms, m.1.isSome = true ∧ m.1 ≠ some memberName

/-- Values, and the answers for which they stand. The member stands at most once, among any others, and
a list of at most one element stands for the object with that member. -/
inductive Stands : Json → Response → Prop
  | absent {ms : List (Option Text × Json)} (h : Foreign ms) : Stands (.obj ms) ⟨none⟩
  | present {front back : List (Option Text × Json)} {v : Json} {content : Option Text}
      (hfront : Foreign front) (hv : Holds v content) (hback : Foreign back) :
      Stands (.obj (front ++ (some memberName, v) :: back)) ⟨content⟩
  | bare : Stands (.arr []) ⟨none⟩
  | single {v : Json} {content : Option Text} (hv : Holds v content) : Stands (.arr [v]) ⟨content⟩

theorem contentOf?_eq_some_iff {v : Json} {content : Option Text} :
    contentOf? v = some content ↔ Holds v content := by
  constructor
  · intro h
    unfold contentOf? at h
    split at h
    · obtain rfl := Option.some.inj h
      exact .null
    · obtain rfl := Option.some.inj h
      exact .text _
    · cases h
  · rintro (_ | t) <;> rfl

theorem map_contentOf?_eq_some_iff {v : Json} {r : Response} :
    (contentOf? v).map Response.mk = some r ↔ Holds v r.markdown? := by
  rw [← contentOf?_eq_some_iff, Option.map_eq_some_iff]
  constructor
  · rintro ⟨content, h, rfl⟩
    exact h
  · exact fun h => ⟨r.markdown?, h, rfl⟩

/-- The members with the name of an answer, if all names are texts. -/
theorem filter_eq_nil_iff_foreign {ms : List (Option Text × Json)}
    (hnames : ∀ m ∈ ms, m.1.isSome = true) :
    ms.filter (·.1 == some memberName) = [] ↔ Foreign ms := by
  rw [List.filter_eq_nil_iff]
  constructor
  · exact fun h m hm => ⟨hnames m hm, by simpa using h m hm⟩
  · exact fun h m hm => by simpa using (h m hm).2

theorem forall_isSome_iff {ms : List (Option Text × Json)} :
    ¬ ms.any (·.1.isNone) = true ↔ ∀ m ∈ ms, m.1.isSome = true := by
  simp only [List.any_eq_true, not_exists, not_and, Bool.not_eq_true, Option.isNone_eq_false_iff]

theorem stands_of_ofJson? {v : Json} {r : Response} (h : ofJson? v = some r) : Stands v r := by
  unfold ofJson? at h
  split at h
  · rename_i ms
    split_ifs at h with hany
    have hnames := forall_isSome_iff.mp hany
    -- the member does not stand there, or stands once
    split at h
    · rename_i hnone
      obtain rfl := Option.some.inj h
      exact .absent ((filter_eq_nil_iff_foreign hnames).mp hnone)
    · rename_i k v hone
      obtain ⟨front, back, rfl, hfront, hk, hback⟩ := List.filter_eq_cons_iff.mp hone
      obtain rfl : k = some memberName := by simpa using hk
      obtain ⟨hfrontNames, hbackNames⟩ := List.forall_mem_append.mp hnames
      refine .present (fun m hm => ⟨hfrontNames m hm, by simpa using hfront m hm⟩)
        (map_contentOf?_eq_some_iff.mp h) ?_
      exact (filter_eq_nil_iff_foreign (List.forall_mem_cons.mp hbackNames).2).mp hback
    · cases h
  · obtain rfl := Option.some.inj h
    exact .bare
  · exact .single (map_contentOf?_eq_some_iff.mp h)
  · cases h

theorem ofJson?_of_stands {v : Json} {r : Response} (h : Stands v r) : ofJson? v = some r := by
  cases h with
  | absent h =>
    have hnames := fun m hm => (h m hm).1
    rw [ofJson?, if_neg (forall_isSome_iff.mpr hnames), (filter_eq_nil_iff_foreign hnames).mpr h]
  | @present front back v content hfront hv hback =>
    have hfrontNames := fun m hm => (hfront m hm).1
    have hbackNames := fun m hm => (hback m hm).1
    have hnames : ∀ m ∈ front ++ (some memberName, v) :: back, m.1.isSome = true :=
      List.forall_mem_append.mpr ⟨hfrontNames, List.forall_mem_cons.mpr ⟨rfl, hbackNames⟩⟩
    have hone : (front ++ (some memberName, v) :: back).filter (·.1 == some memberName)
        = [(some memberName, v)] := by
      rw [List.filter_append, (filter_eq_nil_iff_foreign hfrontNames).mpr hfront, List.nil_append,
        List.filter_cons_of_pos (by simp), (filter_eq_nil_iff_foreign hbackNames).mpr hback]
    rw [ofJson?, if_neg (forall_isSome_iff.mpr hnames), hone]
    exact map_contentOf?_eq_some_iff.mpr hv
  | bare => rfl
  | single hv => exact map_contentOf?_eq_some_iff.mpr hv

theorem ofJson?_eq_some_iff {v : Json} {r : Response} : ofJson? v = some r ↔ Stands v r :=
  ⟨stands_of_ofJson?, ofJson?_of_stands⟩

/-! ## Writing an answer -/

theorem foreign_nil : Foreign [] := nofun

theorem stands_toJson (r : Response) : Stands r.toJson r := by
  cases r with
  | mk markdown? =>
    cases markdown? with
    | none => exact .absent foreign_nil
    | some t => exact @Stands.present [] [] _ _ foreign_nil (.text t) foreign_nil

theorem writable_toJson (r : Response) : r.toJson.Writable := by
  cases r with
  | mk markdown? =>
    cases markdown? with
    | none => exact .obj nofun nofun
    | some t => exact .obj (by simp) (by simpa using .str t)

/-- An answer is read from its text. -/
theorem read?_render (r : Response) : read? r.render = some r := by
  unfold read? render
  rw [Json.read?_render r.writable_toJson, Option.bind_some, ofJson?_eq_some_iff]
  exact r.stands_toJson

/-- Only the answer without content is written as the empty object. -/
theorem render_eq_empty_iff (r : Response) : r.render = "\x7b\x7d".toList ↔ r.markdown? = none := by
  cases r with
  | mk markdown? =>
    cases markdown? with
    | none => exact ⟨fun _ => rfl, fun _ => rfl⟩
    | some t =>
      -- behind the brace there is the quote of a name
      obtain ⟨s, hs⟩ : ∃ s, (Response.mk (some t)).render = '\x7b' :: '"' :: s := ⟨_, rfl⟩
      constructor
      · intro h
        rw [hs] at h
        exact absurd (List.cons.inj (List.cons.inj h).2).1 (by decide)
      · nofun

/-- The texts from which an answer is read. -/
theorem read?_eq_some_iff {t : Text} {r : Response} :
    read? t = some r ↔ ∃ v, Json.Spells (.padded v) t ∧ Stands v r := by
  unfold read?
  rw [Option.bind_eq_some_iff]
  simp only [Json.read?_eq_some_iff, ofJson?_eq_some_iff]

/-- Every answer is read back from its text, and its text is the empty object exactly if it has no
content. The texts from which an answer is read are the JSON texts of values that stand for it; written and
read again, each of them gives that answer, and written once more, the same text. -/
theorem read?_and_render :
    (∀ r : Response, read? r.render = some r) ∧
    (∀ r : Response, r.render = "\x7b\x7d".toList ↔ r.markdown? = none) ∧
    (∀ t r, read? t = some r ↔ ∃ v, Json.Spells (.padded v) t ∧ Stands v r) ∧
    (∀ t, (read? t).bind (fun r => read? r.render) = read? t) ∧
    ∀ t, ((read? t).map render).bind (fun s => (read? s).map render) = (read? t).map render := by
  refine ⟨read?_render, render_eq_empty_iff, fun t r => read?_eq_some_iff, fun t => ?_, fun t => ?_⟩
  · cases read? t with
    | none => rfl
    | some r => exact read?_render r
  · cases read? t with
    | none => rfl
    | some r =>
      rw [Option.map_some, Option.bind_some, read?_render]
      rfl

end ChatScribe.Response
