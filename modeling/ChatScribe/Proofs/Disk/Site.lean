import ChatScribe.Proofs.Disk.Directory

/-!
# New files in a directory

`LeadsTo` says that a path leads to a directory. It then does so for every name in there: whether a
file can be put under a name hangs on the length of the name and on what has the name already
(`putNew_join`, `putNew_join_of_tooLong`). A path leads to the directory that has been found there, and
to the one that has been made there.
-/

namespace ChatScribe

namespace Path

theorem byteCount_append (s t : Text) : byteCount (s ++ t) = byteCount s + byteCount t := by
  unfold byteCount Utf8.encode
  rw [List.flatMap_append, List.length_append]

theorem mem_join {dir name : Text} {c : Char} (h : c ∈ join dir name) :
    c ∈ dir ∨ c = '/' ∨ c ∈ name := by
  unfold join at h
  split at h
  · exact Or.inr (Or.inr h)
  · split at h
    · rcases List.mem_append.mp h with h | h
      · exact Or.inl h
      · exact Or.inr (Or.inr h)
    · rcases List.mem_append.mp h with h | h
      · exact Or.inl h
      · exact Or.inr (List.mem_cons.mp h)

theorem byteCount_join_le (dir name : Text) :
    byteCount (join dir name) ≤ byteCount dir + 1 + byteCount name := by
  have hslash : byteCount ('/' :: name) = 1 + byteCount name := byteCount_append ['/'] name
  unfold join
  split
  · omega
  · split
    · rw [byteCount_append]
      omega
    · rw [byteCount_append, hslash]
      omega

theorem join_ne_nil (dir : Text) {name : Text} (h : IsName name) : join dir name ≠ [] := by
  intro hnil
  have hlast := getLast?_join dir h
  rw [hnil, List.getLast?_nil, eq_comm, List.getLast?_eq_none_iff] at hlast
  exact h.ne_nil hlast

theorem check_eq_ok_iff {path : Text} :
    check path = .ok () ↔ '\x00' ∉ path ∧ path ≠ [] ∧ byteCount path ≤ maxPath := by
  unfold check
  by_cases hnul : '\x00' ∈ path
  · simp [hnul]
  · by_cases hempty : path = []
    · simp [hempty]
    · by_cases hlong : byteCount path > maxPath
      · simp [hnul, hempty, hlong]
      · simp [hnul, hempty, hlong, Nat.le_of_not_lt hlong]

end Path

namespace Disk

/-- Does a path lead to this directory? -/
structure LeadsTo (d : Disk) (path : Text) (p : Place) : Prop where
  nul : '\x00' ∉ path
  walk : (Path.names path).foldlM d.enter (d.start path) = .ok p
  entry : d.entry? p = some .directory

section

variable {d d' : Disk} {p q r : Place} {path name : Text} {e : Entry}

/-! ## Directories that are found -/

theorem eq_of_enter_nil (h : d.enter p [] = .ok q) : q = p := by
  unfold enter at h
  split at h
  · cases h
  · exact (Except.ok.inj h).symm
  · cases h

/-- Two slashes in a row lead nowhere else than one. -/
theorem foldlM_enter_filter {pieces : List Text} (h : pieces.foldlM d.enter p = .ok q) :
    (pieces.filter fun n => !n.isEmpty).foldlM d.enter p = .ok q := by
  induction pieces generalizing p with
  | nil => exact h
  | cons n pieces ih =>
    rw [List.foldlM_cons] at h
    obtain ⟨next, hstep, hrest⟩ := bind_eq_ok h
    cases n with
    | nil =>
      obtain rfl := eq_of_enter_nil hstep
      exact ih hrest
    | cons c n =>
      have hkept : (!(c :: n).isEmpty) = true := rfl
      rw [List.filter_cons, if_pos hkept, List.foldlM_cons, hstep]
      exact ih hrest

theorem exists_leadsTo_of_look (h : d.look path = some .directory) : ∃ p, d.LeadsTo path p := by
  unfold look at h
  cases hfind : d.find path with
  | error f =>
    rw [hfind] at h
    cases h
  | ok p =>
    rw [hfind] at h
    obtain ⟨⟨⟩, hcheck, hwalk⟩ := bind_eq_ok hfind
    obtain ⟨e, hentry, hkind⟩ := Option.map_eq_some_iff.mp h
    have hdirectory : e = .directory := by
      cases e with
      | directory => rfl
      | file bytes => cases hkind
      | sink => cases hkind
    exact ⟨p, (Path.check_eq_ok_iff.mp hcheck).1, foldlM_enter_filter hwalk, hdirectory ▸ hentry⟩

/-! ## Directories that are made -/

/-- What stands on a disk still does when something is added where nothing stands. -/
theorem entry?_add_of_some {e' : Entry} (h : d.entry? q = some e') (hfree : d.entry? r = none) :
    entry? (d.add r e) q = some e' := by
  by_cases hq : q = []
  · subst hq
    exact h
  · have hne : q ≠ r := by
      rintro rfl
      rw [hfree] at h
      cases h
    rw [entry?_add d r e hq, if_neg hne, h]

theorem enter_add (h : d.enter p name = .ok q) (hfree : d.entry? r = none) :
    enter (d.add r e) p name = .ok q := by
  unfold enter at h
  split at h
  · cases h
  · rename_i hp
    unfold enter
    rw [entry?_add_of_some hp hfree]
    dsimp only
    by_cases hstay : (name.isEmpty || name == Path.here) = true
    · rw [if_pos hstay] at h ⊢
      exact h
    · rw [if_neg hstay] at h ⊢
      by_cases habove : (name == Path.above) = true
      · rw [if_pos habove] at h ⊢
        exact h
      · rw [if_neg habove] at h ⊢
        by_cases hlong : Path.byteCount name > Path.maxName
        · rw [if_pos hlong] at h
          cases h
        · rw [if_neg hlong] at h ⊢
          cases hentry : d.entry? (name :: p) with
          | none =>
            rw [hentry] at h
            cases h
          | some e' =>
            rw [hentry] at h
            rw [entry?_add_of_some hentry hfree]
            exact h
  · cases h

theorem foldlM_enter_add {ns : List Text} (h : ns.foldlM d.enter p = .ok q)
    (hfree : d.entry? r = none) : ns.foldlM (enter (d.add r e)) p = .ok q := by
  induction ns generalizing p with
  | nil => exact h
  | cons n ns ih =>
    rw [List.foldlM_cons] at h ⊢
    obtain ⟨next, hstep, hrest⟩ := bind_eq_ok h
    rw [enter_add hstep hfree]
    exact ih hrest

theorem site_of_walk (hcheck : Path.check path = .ok ())
    (hwalk : (Path.names path).dropLast.foldlM d.enter (d.start path) = .ok p)
    (hentry : d.entry? p = some .directory) :
    d.site path = .ok ⟨p, (Path.names path).getLast?.getD Path.here, path.getLast? == some '/'⟩ := by
  unfold site
  simp only [hcheck, hwalk, hentry, bind, Except.bind]
  rfl

theorem putNew_of_site {s : Site} (hnul : '\x00' ∉ path) (hsite : d.site path = .ok s)
    (bytes : List UInt8) : d.putNew path bytes =
      match s.refusal? d with
      | some f => .error f
      | none => if s.slashed then .error .notDirectory else .ok (d.add s.place (.file bytes)) := by
  rw [putNew_eq, if_neg (mt List.contains_iff_mem.mp hnul), hsite]
  rfl

theorem names_eq_concat (hdots : Path.isDots ((Path.names path).getLast?.getD Path.here) = false) :
    Path.names path =
      (Path.names path).dropLast ++ [(Path.names path).getLast?.getD Path.here] := by
  rcases List.eq_nil_or_concat' (Path.names path) with hnil | ⟨front, name, hnames⟩
  · rw [hnil] at hdots
    exact absurd (show Path.isDots Path.here = false from hdots) (by decide)
  · rw [hnames, List.getLast?_concat, Option.getD_some, List.dropLast_concat]

theorem enter_of_entry? (hdir : d.entry? p = some .directory) (hne : name ≠ [])
    (hdots : Path.isDots name = false) (hfits : Path.byteCount name ≤ Path.maxName)
    (hentry : d.entry? (name :: p) = some e) : d.enter p name = .ok (name :: p) := by
  obtain ⟨hhere, habove⟩ := Bool.or_eq_false_iff.mp hdots
  have hempty : name.isEmpty = false := by simpa using hne
  unfold enter
  rw [hdir]
  dsimp only
  rw [hempty, hhere, habove, hentry, if_neg (Nat.not_lt.mpr hfits)]
  rfl

/-- A path leads to the directory that has been made there. -/
theorem exists_leadsTo_of_makeDir (h : d.makeDir path = .ok d') : ∃ p, d'.LeadsTo path p := by
  rw [makeDir_eq] at h
  obtain ⟨s, hsite, h⟩ := bind_eq_ok h
  obtain ⟨hcheck, p, hwalk, hdir, rfl⟩ := of_site hsite
  cases hrefusal : Site.refusal? d ⟨p, (Path.names path).getLast?.getD Path.here,
      path.getLast? == some '/'⟩ with
  | some f =>
    rw [hrefusal] at h
    cases h
  | none =>
    rw [hrefusal] at h
    obtain ⟨hdots, hfits, hfree⟩ := refusal?_eq_none_iff.mp hrefusal
    have hnames := names_eq_concat hdots
    generalize (Path.names path).getLast?.getD Path.here = name at *
    obtain rfl : d.add (name :: p) .directory = d' := Except.ok.inj h
    have hne : name ≠ [] := by
      have hmem : name ∈ Path.names path := by
        rw [hnames]
        exact List.mem_concat_self
      simpa using (List.mem_filter.mp hmem).2
    have hentry : entry? (d.add (name :: p) .directory) (name :: p) = some .directory := by
      rw [entry?_add d (name :: p) .directory (List.cons_ne_nil _ _), if_pos rfl]
    have hfront : (Path.names path).dropLast.foldlM (enter (d.add (name :: p) .directory))
        (start (d.add (name :: p) .directory) path) = .ok p := foldlM_enter_add hwalk hfree
    have hstep : enter (d.add (name :: p) .directory) p name = .ok (name :: p) :=
      enter_of_entry? (entry?_add_of_some hdir hfree) hne hdots hfits hentry
    refine ⟨name :: p, (Path.check_eq_ok_iff.mp hcheck).1, ?_, hentry⟩
    rw [hnames, List.foldlM_append, hfront]
    show List.foldlM (enter (d.add (name :: p) .directory)) p [name] = _
    rw [List.foldlM_cons, hstep]
    rfl

/-! ## Files that are put there -/

variable {dir : Text}

theorem site_join (hdir : d.LeadsTo dir p) (hname : Path.IsName name)
    (hcheck : Path.check (Path.join dir name) = .ok ()) :
    d.site (Path.join dir name) = .ok ⟨p, name, false⟩ := by
  have hstart : d.start (Path.join dir name) = d.start dir := by
    unfold start
    rw [Path.isAbsolute_join dir hname]
  have hslash : ((Path.join dir name).getLast? == some '/') = false := by
    rw [Path.getLast?_join dir hname, beq_eq_false_iff_ne]
    exact fun heq => hname.slash (List.mem_of_getLast? heq)
  have hwalk : (Path.names (Path.join dir name)).dropLast.foldlM d.enter
      (d.start (Path.join dir name)) = .ok p := by
    rw [Path.names_join dir hname, List.dropLast_concat, hstart, hdir.walk]
  rw [site_of_walk hcheck hwalk hdir.entry, Path.names_join dir hname, List.getLast?_concat,
    Option.getD_some, hslash]

theorem LeadsTo.nul_join (hdir : d.LeadsTo dir p) (hnul : '\x00' ∉ name) :
    '\x00' ∉ Path.join dir name := by
  intro hmem
  rcases Path.mem_join hmem with hmem | heq | hmem
  · exact hdir.nul hmem
  · exact absurd heq (by decide)
  · exact hnul hmem

/-- A file is put under a name that is short enough and that nothing has. -/
theorem putNew_join (hdir : d.LeadsTo dir p) (hname : Path.IsName name) (hnul : '\x00' ∉ name)
    (hfits : Path.byteCount name ≤ Path.maxName)
    (hroom : Path.byteCount dir + 1 + Path.maxName ≤ Path.maxPath) (bytes : List UInt8) :
    d.putNew (Path.join dir name) bytes =
      if (d.entry? (name :: p)).isSome then .error .taken
      else .ok (d.add (name :: p) (.file bytes)) := by
  have hjoined := hdir.nul_join hnul
  have hle := Path.byteCount_join_le dir name
  have hcheck : Path.check (Path.join dir name) = .ok () :=
    Path.check_eq_ok_iff.mpr ⟨hjoined, Path.join_ne_nil dir hname, by omega⟩
  have hshort : Site.isTooLong ⟨p, name, false⟩ = false := decide_eq_false (Nat.not_lt.mpr hfits)
  have hrefusal : Site.refusal? d ⟨p, name, false⟩ =
      if (d.entry? (name :: p)).isSome then some .taken else none := by
    unfold Site.refusal?
    rw [hname.dots, hshort]
    rfl
  rw [putNew_of_site hjoined (site_join hdir hname hcheck), hrefusal]
  by_cases htaken : (d.entry? (name :: p)).isSome = true
  · rw [if_pos htaken, if_pos htaken]
  · rw [if_neg htaken, if_neg htaken]
    rfl

/-- No file is put under a name that is too long, whatever stands in the directory. -/
theorem putNew_join_of_tooLong (hdir : d.LeadsTo dir p) (hname : Path.IsName name)
    (hnul : '\x00' ∉ name) (hlong : Path.maxName < Path.byteCount name) (bytes : List UInt8) :
    d.putNew (Path.join dir name) bytes = .error .nameTooLong := by
  have hjoined := hdir.nul_join hnul
  by_cases hroom : Path.byteCount (Path.join dir name) ≤ Path.maxPath
  · have hcheck : Path.check (Path.join dir name) = .ok () :=
      Path.check_eq_ok_iff.mpr ⟨hjoined, Path.join_ne_nil dir hname, hroom⟩
    have htooLong : Site.isTooLong ⟨p, name, false⟩ = true := decide_eq_true hlong
    have hrefusal : Site.refusal? d ⟨p, name, false⟩ = some .nameTooLong := by
      unfold Site.refusal?
      rw [hname.dots, htooLong]
      rfl
    rw [putNew_of_site hjoined (site_join hdir hname hcheck), hrefusal]
  · -- the whole path is then too long as well, which is the same fault
    have hcheck : Path.check (Path.join dir name) = .error .nameTooLong := by
      unfold Path.check
      rw [if_neg (mt List.contains_iff_mem.mp hjoined),
        if_neg (mt List.isEmpty_iff.mp (Path.join_ne_nil dir hname)),
        if_pos (Nat.lt_of_not_le hroom)]
    rw [putNew_eq, if_neg (mt List.contains_iff_mem.mp hjoined)]
    unfold site
    rw [hcheck]
    rfl

end

end Disk

end ChatScribe
