import ChatScribe.Text.Basic

/-!
# What a text starts with

Prefixes of a text that is put together from parts.
-/

namespace ChatScribe.Text

theorem dropPrefix?_append_self (p r : Text) : dropPrefix? p (p ++ r) = some r := by
  induction p with
  | nil => rfl
  | cons c p ih => rw [List.cons_append, dropPrefix?, if_pos rfl, ih]

theorem startsWith_iff_prefix {t p : Text} : startsWith t p = true ↔ p <+: t := by
  unfold startsWith
  rw [Option.isSome_iff_exists]
  constructor
  · rintro ⟨r, hr⟩
    exact ⟨r, (eq_append_of_dropPrefix? hr).symm⟩
  · rintro ⟨r, rfl⟩
    exact ⟨r, dropPrefix?_append_self p r⟩

/-- A prefix that ends in a visible character does not reach into the white space behind a text. -/
theorem prefix_of_prefix_append {p a w : Text} {c : Char} (hp : p.getLast? = some c)
    (hc : isSpace c = false) (hw : ∀ d ∈ w, isSpace d = true) (h : p <+: a ++ w) : p <+: a := by
  rcases List.prefix_or_prefix_of_prefix h (List.prefix_append a w) with hpre | ⟨v, rfl⟩
  · exact hpre
  · have hv : v <+: w := (List.prefix_append_right_inj a).mp h
    cases hlast : v.getLast? with
    | none =>
      refine ⟨[], ?_⟩
      rw [List.getLast?_eq_none_iff.mp hlast, List.append_nil, List.append_nil]
    | some d =>
      rw [List.getLast?_append, hlast] at hp
      have hd : d = c := Option.some.inj hp
      have hspace := hw d (hv.subset (List.mem_of_getLast? hlast))
      rw [hd, hc] at hspace
      cases hspace

end ChatScribe.Text
