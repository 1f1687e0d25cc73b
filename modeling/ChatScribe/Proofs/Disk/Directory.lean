import ChatScribe.Disk.Basic
import ChatScribe.Proofs.Saving.Names
import Mathlib.Logic.Function.Basic

/-!
# A directory of a disk

What making directories and putting files does to the entries of one directory. The directory is given
by a path without the name for the one around it: such a path says where it leads without a look at the
disk, and the directories on the way to it do not lie in it.
-/

namespace ChatScribe

namespace Path

/-- Is the place of the path told from its names? -/
def IsPlain (path : Text) : Prop := above ∉ names path

instance (path : Text) : Decidable (IsPlain path) := inferInstanceAs (Decidable (above ∉ names path))

/-! ## Names of a path -/

theorem names_append_slash (u v : Text) : names (u ++ '/' :: v) = names u ++ names v := by
  unfold names
  rw [Text.splitOn_append_cons, List.filter_append]

theorem names_of_isName {name : Text} (h : IsName name) : names name = [name] := by
  unfold names
  rw [Text.splitOn_of_not_mem h.slash]
  simp [h.ne_nil]

theorem isAbsolute_of_isName {name : Text} (h : IsName name) : isAbsolute name = false := by
  unfold isAbsolute
  rw [beq_eq_false_iff_ne]
  intro hhead
  exact h.slash (List.mem_of_mem_head? hhead)

/-- The names of something in a directory are those of the directory and its own. -/
theorem names_join (dir : Text) {name : Text} (h : IsName name) :
    names (join dir name) = names dir ++ [name] := by
  have hname := names_of_isName h
  unfold join
  rw [isAbsolute_of_isName h, Bool.false_or]
  cases hdir : dir.getLast? with
  | none =>
    rw [List.getLast?_eq_none_iff] at hdir
    subst hdir
    rw [List.isEmpty_nil, if_pos rfl, hname]
    rfl
  | some c =>
    obtain ⟨front, rfl⟩ := List.getLast?_eq_some_iff.mp hdir
    have hempty : (front ++ [c]).isEmpty = false := by simp
    rw [hempty, if_neg Bool.false_ne_true]
    by_cases hc : c = '/'
    · subst hc
      rw [if_pos (by simp), List.append_assoc, List.singleton_append, names_append_slash, hname,
        names_append_slash]
      have hnil : names [] = [] := rfl
      rw [hnil, List.append_nil]
    · rw [if_neg (by simpa using hc), names_append_slash, hname]

theorem isAbsolute_join (dir : Text) {name : Text} (h : IsName name) :
    isAbsolute (join dir name) = isAbsolute dir := by
  unfold join
  rw [isAbsolute_of_isName h, Bool.false_or]
  cases dir with
  | nil => exact isAbsolute_of_isName h
  | cons c dir =>
    rw [List.isEmpty_cons, if_neg Bool.false_ne_true]
    split <;> rfl

/-- No slash follows the name of something in a directory. -/
theorem getLast?_join (dir : Text) {name : Text} (h : IsName name) :
    (join dir name).getLast? = name.getLast? := by
  obtain ⟨c, hc⟩ := Option.ne_none_iff_exists'.mp (mt List.getLast?_eq_none_iff.mp h.ne_nil)
  unfold join
  rw [isAbsolute_of_isName h, Bool.false_or]
  split
  · rfl
  · split
    · rw [List.getLast?_append, hc]
      rfl
    · rw [List.getLast?_append, List.getLast?_cons, hc]
      rfl

/-! ## The directories around a path -/

/-- The names of a path that lead somewhere. -/
def steps (path : Text) : List Text := (names path).filter (· != here)

theorem isName_of_mem_steps {path n : Text} (hplain : IsPlain path) (h : n ∈ steps path) :
    IsName n := by
  unfold steps at h
  obtain ⟨hmem, hhere⟩ := List.mem_filter.mp h
  obtain ⟨hpiece, hne⟩ := List.mem_filter.mp hmem
  refine ⟨by simpa using hne, Text.not_mem_of_mem_splitOn hpiece, ?_⟩
  unfold isDots
  rw [Bool.or_eq_false_iff, beq_eq_false_iff_ne, beq_eq_false_iff_ne]
  exact ⟨by simpa using hhere, fun heq => hplain (heq ▸ hmem)⟩

/-- Names joined by slashes are found again. -/
theorem names_join_slash {ns : List Text} (h : ∀ n ∈ ns, IsName n) :
    names (Text.join ['/'] ns) = ns := by
  unfold names
  by_cases hns : ns = []
  · subst hns
    rfl
  · rw [Text.splitOn_join hns fun n hn => (h n hn).slash, List.filter_eq_self]
    intro n hn
    simp [(h n hn).ne_nil]

theorem isAbsolute_join_slash {ns : List Text} (h : ∀ n ∈ ns, IsName n) :
    isAbsolute (Text.join ['/'] ns) = false := by
  unfold isAbsolute
  rw [beq_eq_false_iff_ne]
  cases ns with
  | nil => exact fun h => nomatch h
  | cons n ns =>
    obtain ⟨c, r, hn⟩ := List.exists_cons_of_ne_nil (h n List.mem_cons_self).ne_nil
    have hhead : (Text.join ['/'] (n :: ns)).head? = some c := by
      rw [hn]
      cases ns <;> rfl
    rw [hhead]
    intro hc
    obtain rfl := Option.some.inj hc
    exact (h n List.mem_cons_self).slash (hn ▸ List.mem_cons_self)

section

variable {ns : List Text}

theorem names_rooted (h : ∀ n ∈ ns, IsName n) (absolute : Bool) :
    names ((if absolute then ['/'] else []) ++ Text.join ['/'] ns) = ns := by
  cases absolute with
  | false => exact names_join_slash h
  | true => exact (names_append_slash [] _).trans (names_join_slash h)

theorem isAbsolute_rooted (h : ∀ n ∈ ns, IsName n) (absolute : Bool) :
    isAbsolute ((if absolute then ['/'] else []) ++ Text.join ['/'] ns) = absolute := by
  cases absolute with
  | false => exact isAbsolute_join_slash h
  | true => rfl

end

/-- The directories around a path start where it starts and lie on the way to it. -/
theorem of_mem_chain {dir path : Text} (hplain : IsPlain dir) (h : path ∈ chain dir) :
    IsPlain path ∧ isAbsolute path = isAbsolute dir ∧ (steps path).length ≤ (steps dir).length := by
  unfold chain at h
  rcases List.mem_cons.mp h with rfl | h
  · exact ⟨hplain, rfl, Nat.le_refl _⟩
  · rw [List.mem_reverse] at h
    obtain ⟨n, -, hpath⟩ := List.mem_map.mp h
    have htake : ∀ m ∈ (steps dir).take n, IsName m :=
      fun m hm => isName_of_mem_steps hplain (List.mem_of_mem_take hm)
    have hnames : names path = (steps dir).take n := by
      rw [← hpath]
      exact names_rooted htake (isAbsolute dir)
    refine ⟨?_, ?_, ?_⟩
    · intro hmem
      rw [hnames] at hmem
      exact absurd (htake _ hmem).dots (by decide)
    · rw [← hpath]
      exact isAbsolute_rooted htake (isAbsolute dir)
    · have hsteps : (steps path).length ≤ (names path).length := List.length_filter_le _ _
      have hlength : (names path).length ≤ (steps dir).length := by
        rw [hnames]
        exact List.length_take_le' _ _
      omega

theorem check_ne_taken (path : Text) : check path ≠ .error .taken := by
  intro h
  unfold check at h
  repeat' split at h
  all_goals cases h

end Path

namespace Disk

/-! ## Places -/

/-- Where a plain path leads. -/
def placeOf (d : Disk) (path : Text) : Place := (Path.steps path).reverse ++ d.start path

theorem entry?_add (d : Disk) (p : Place) (e : Entry) {q : Place} (hq : q ≠ []) :
    entry? (d.add p e) q = if q = p then some e else d.entry? q := by
  have hempty : q.isEmpty = false := by simpa using hq
  unfold entry? add
  rw [hempty]
  simp only [List.lookup_cons]
  by_cases h : q = p
  · simp [h]
  · simp [h, beq_eq_false_iff_ne.mpr h]

/-- A name either stays in its directory or leads into one of its own. -/
theorem eq_of_enter {d : Disk} {p q : Place} {name : Text} (hne : name ≠ [])
    (habove : name ≠ Path.above) (h : d.enter p name = .ok q) :
    q = if name = Path.here then p else name :: p := by
  have hempty : name.isEmpty = false := by simpa using hne
  unfold enter at h
  split at h
  · cases h
  · rw [hempty, Bool.false_or] at h
    by_cases hhere : name = Path.here
    · rw [if_pos hhere]
      rw [if_pos (beq_iff_eq.mpr hhere)] at h
      exact (Except.ok.inj h).symm
    · rw [if_neg hhere]
      rw [if_neg (mt beq_iff_eq.mp hhere), if_neg (mt beq_iff_eq.mp habove)] at h
      split at h
      · cases h
      · split at h
        · exact (Except.ok.inj h).symm
        · cases h
  · cases h

/-- Walking along names leads to the place that they tell. -/
theorem eq_of_foldlM_enter {d : Disk} {ns : List Text} (hne : ∀ n ∈ ns, n ≠ [])
    (habove : Path.above ∉ ns) {p q : Place} (h : ns.foldlM d.enter p = .ok q) :
    q = (ns.filter (· != Path.here)).reverse ++ p := by
  induction ns generalizing p with
  | nil => exact (Except.ok.inj h).symm
  | cons n ns ih =>
    rw [List.mem_cons, not_or] at habove
    rw [List.foldlM_cons] at h
    cases hstep : d.enter p n with
    | error f =>
      rw [hstep] at h
      cases h
    | ok r =>
      rw [hstep] at h
      rw [ih (fun m hm => hne m (List.mem_cons_of_mem n hm)) habove.2 h,
        eq_of_enter (hne n List.mem_cons_self) (Ne.symm habove.1) hstep]
      by_cases hhere : n = Path.here
      · simp [hhere]
      · simp [hhere]

/-! ## Sites -/

/-- A chain of operations succeeds if each of them does. -/
theorem bind_eq_ok {α β : Type} {x : Except Fault α} {f : α → Except Fault β} {b : β}
    (h : x >>= f = .ok b) : ∃ a, x = .ok a ∧ f a = .ok b := by
  cases x with
  | error e => cases h
  | ok a => exact ⟨a, rfl, h⟩

/-- A chain of operations fails where one of them does. -/
theorem bind_eq_error {α β : Type} {x : Except Fault α} {f : α → Except Fault β} {e : Fault}
    (h : x >>= f = .error e) : x = .error e ∨ ∃ a, x = .ok a ∧ f a = .error e := by
  cases x with
  | error e' => exact Or.inl (congrArg Except.error (Except.error.inj h))
  | ok a => exact Or.inr ⟨a, rfl, h⟩

/-- What a path has to be for it to name a site. -/
theorem of_site {d : Disk} {path : Text} {s : Site} (h : d.site path = .ok s) :
    Path.check path = .ok () ∧ ∃ p,
      (Path.names path).dropLast.foldlM d.enter (d.start path) = .ok p ∧
        d.entry? p = some .directory ∧
          s = ⟨p, (Path.names path).getLast?.getD Path.here, path.getLast? == some '/'⟩ := by
  unfold site at h
  obtain ⟨⟨⟩, hcheck, h⟩ := bind_eq_ok h
  obtain ⟨p, hwalk, h⟩ := bind_eq_ok h
  split at h
  · rename_i hentry
    exact ⟨hcheck, p, hwalk, hentry, (Except.ok.inj h).symm⟩
  · cases h
  · cases h

/-- The site of a plain path: its directory is where all names but the last lead. -/
theorem eq_of_site {d : Disk} {path : Text} {s : Site} (hplain : Path.IsPlain path)
    (h : d.site path = .ok s) :
    s = ⟨((Path.names path).dropLast.filter (· != Path.here)).reverse ++ d.start path,
      (Path.names path).getLast?.getD Path.here, path.getLast? == some '/'⟩ := by
  obtain ⟨-, p, hwalk, -, rfl⟩ := of_site h
  have hne : ∀ n ∈ (Path.names path).dropLast, n ≠ [] := by
    intro n hn
    obtain ⟨-, hne⟩ := List.mem_filter.mp ((List.dropLast_sublist _).mem hn)
    simpa using hne
  have habove : Path.above ∉ (Path.names path).dropLast :=
    fun hmem => hplain ((List.dropLast_sublist _).mem hmem)
  rw [eq_of_foldlM_enter hne habove hwalk]

theorem enter_ne_taken (d : Disk) (p : Place) (name : Text) : d.enter p name ≠ .error .taken := by
  intro h
  unfold enter at h
  split at h
  · cases h
  · repeat' split at h
    all_goals cases h
  · cases h

theorem foldlM_enter_ne_taken (d : Disk) (ns : List Text) (p : Place) :
    ns.foldlM d.enter p ≠ .error .taken := by
  intro h
  induction ns generalizing p with
  | nil => cases h
  | cons n ns ih =>
    rw [List.foldlM_cons] at h
    rcases bind_eq_error h with h | ⟨q, -, h⟩
    · exact enter_ne_taken d p n h
    · exact ih q h

/-- A path whose site cannot be found is not taken. -/
theorem site_ne_taken (d : Disk) (path : Text) : d.site path ≠ .error .taken := by
  intro h
  unfold site at h
  rcases bind_eq_error h with h | ⟨-, -, h⟩
  · exact Path.check_ne_taken path h
  · rcases bind_eq_error h with h | ⟨dir, -, h⟩
    · exact foldlM_enter_ne_taken d _ _ h
    · split at h <;> cases h

/-- What has to hold of a site for something new to be put there, in the order of the checks. -/
def Site.refusal? (d : Disk) (s : Site) : Option Fault :=
  if Path.isDots s.name then some .taken
  else if s.isTooLong then some .nameTooLong
  else if (d.entry? s.place).isSome then some .taken
  else none

theorem makeDir_eq (d : Disk) (path : Text) : d.makeDir path = (do
    let s ← d.site path
    match s.refusal? d with
    | some f => .error f
    | none => .ok (d.add s.place .directory)) := by
  unfold makeDir Site.refusal?
  congr
  funext s
  by_cases hdots : Path.isDots s.name = true
  · simp [hdots]
    rfl
  · by_cases hlong : s.isTooLong = true
    · simp [hdots, hlong]
      rfl
    · by_cases hentry : (d.entry? s.place).isSome = true
      · simp [hdots, hlong, hentry]
        rfl
      · simp [hdots, hlong, hentry]
        rfl

theorem putNew_eq (d : Disk) (path : Text) (bytes : List UInt8) : d.putNew path bytes =
    if path.contains '\x00' then .error .invalid
    else (do
      let s ← d.site path
      match s.refusal? d with
      | some f => .error f
      | none => if s.slashed then .error .notDirectory else .ok (d.add s.place (.file bytes))) := by
  unfold putNew Site.refusal?
  by_cases hnul : path.contains '\x00' = true
  · rw [if_pos hnul, if_pos hnul]
    rfl
  · rw [if_neg hnul, if_neg hnul]
    dsimp only
    congr
    funext s
    by_cases hdots : Path.isDots s.name = true
    · simp [hdots]
      rfl
    · by_cases hlong : s.isTooLong = true
      · simp [hdots, hlong]
        rfl
      · by_cases hentry : (d.entry? s.place).isSome = true
        · simp [hdots, hlong, hentry]
          rfl
        · by_cases hslash : s.slashed = true
          · simp [hdots, hlong, hentry, hslash]
            rfl
          · simp [hdots, hlong, hentry, hslash]
            rfl

/-- Something new stands where its path leads. -/
theorem place_of_site {d : Disk} {path : Text} {s : Site} (hplain : Path.IsPlain path)
    (h : d.site path = .ok s) (hdots : Path.isDots s.name = false) :
    s.place = d.placeOf path := by
  have hs := eq_of_site hplain h
  unfold Site.place placeOf Path.steps
  rcases List.eq_nil_or_concat' (Path.names path) with hnil | ⟨front, name, hnames⟩
  · rw [hs, hnil] at hdots
    exact absurd (show Path.isDots Path.here = false from hdots) (by decide)
  · rw [hnames] at hs
    simp only [List.dropLast_concat, List.getLast?_concat, Option.getD_some] at hs
    rw [hs] at hdots
    have hhere : name ≠ Path.here := by
      rintro rfl
      exact absurd (show Path.isDots Path.here = false from hdots) (by decide)
    rw [hs, hnames]
    simp [List.filter_append, hhere]

theorem refusal?_eq_none_iff {d : Disk} {s : Site} : s.refusal? d = none ↔
    Path.isDots s.name = false ∧ Path.byteCount s.name ≤ Path.maxName ∧ d.entry? s.place = none := by
  unfold Site.refusal? Site.isTooLong
  by_cases hdots : Path.isDots s.name = true
  · simp [hdots]
  · by_cases hlong : Path.byteCount s.name > Path.maxName
    · simp [hdots, hlong, Nat.not_le_of_lt hlong]
    · simp [hdots, hlong, Nat.le_of_not_lt hlong]

/-- A directory is made where its path leads, and nothing else changes. -/
theorem eq_of_makeDir {d d' : Disk} {path : Text} (hplain : Path.IsPlain path)
    (h : d.makeDir path = .ok d') : d' = d.add (d.placeOf path) .directory := by
  rw [makeDir_eq] at h
  obtain ⟨s, hsite, h⟩ := bind_eq_ok h
  cases hrefusal : s.refusal? d with
  | some f =>
    rw [hrefusal] at h
    cases h
  | none =>
    rw [hrefusal] at h
    obtain ⟨hdots, -, -⟩ := refusal?_eq_none_iff.mp hrefusal
    rw [← place_of_site hplain hsite hdots]
    exact (Except.ok.inj h).symm

section

variable {d : Disk} {dir name : Text}

theorem placeOf_join (hname : Path.IsName name) :
    d.placeOf (Path.join dir name) = name :: d.placeOf dir := by
  have hhere : name ≠ Path.here := by
    rintro rfl
    exact absurd hname.dots (by decide)
  unfold placeOf Path.steps start
  rw [Path.names_join dir hname, Path.isAbsolute_join dir hname, List.filter_append]
  simp [hhere]

theorem isPlain_join (hplain : Path.IsPlain dir) (hname : Path.IsName name) :
    Path.IsPlain (Path.join dir name) := by
  unfold Path.IsPlain
  rw [Path.names_join dir hname, List.mem_append, not_or, List.mem_singleton]
  refine ⟨hplain, ?_⟩
  rintro rfl
  exact absurd hname.dots (by decide)

/-- The site of a name in a directory. -/
theorem of_site_join {s : Site} (hplain : Path.IsPlain dir) (hname : Path.IsName name)
    (h : d.site (Path.join dir name) = .ok s) :
    s.place = name :: d.placeOf dir ∧ Path.isDots s.name = false ∧ s.slashed = false := by
  have hs := eq_of_site (isPlain_join hplain hname) h
  have hlast : s.name = name := by
    rw [hs, Path.names_join dir hname]
    simp
  have hdots : Path.isDots s.name = false := by
    rw [hlast]
    exact hname.dots
  refine ⟨?_, hdots, ?_⟩
  · rw [place_of_site (isPlain_join hplain hname) h hdots, placeOf_join hname]
  · rw [hs]
    show ((Path.join dir name).getLast? == some '/') = false
    rw [Path.getLast?_join dir hname, beq_eq_false_iff_ne]
    exact fun hslash => hname.slash (List.mem_of_getLast? hslash)

/-- A file is put under a name that nothing has, and nothing else changes. -/
theorem of_putNew {d' : Disk} {bytes : List UInt8} (hplain : Path.IsPlain dir)
    (hname : Path.IsName name) (h : d.putNew (Path.join dir name) bytes = .ok d') :
    d.entry? (name :: d.placeOf dir) = none ∧
      d' = d.add (name :: d.placeOf dir) (.file bytes) := by
  rw [putNew_eq] at h
  split at h
  · cases h
  · obtain ⟨s, hsite, h⟩ := bind_eq_ok h
    obtain ⟨hplace, -, hslash⟩ := of_site_join hplain hname hsite
    cases hrefusal : s.refusal? d with
    | some f =>
      rw [hrefusal] at h
      cases h
    | none =>
      rw [hrefusal, hslash] at h
      obtain ⟨-, -, hentry⟩ := refusal?_eq_none_iff.mp hrefusal
      rw [← hplace]
      exact ⟨hentry, (Except.ok.inj h).symm⟩

/-- A name is taken only if something has it. -/
theorem isSome_of_putNew_taken {bytes : List UInt8} (hplain : Path.IsPlain dir)
    (hname : Path.IsName name) (h : d.putNew (Path.join dir name) bytes = .error .taken) :
    (d.entry? (name :: d.placeOf dir)).isSome = true := by
  rw [putNew_eq] at h
  split at h
  · cases h
  · rcases bind_eq_error h with h | ⟨s, hsite, h⟩
    · exact absurd h (site_ne_taken d _)
    · obtain ⟨hplace, hdots, hslash⟩ := of_site_join hplain hname hsite
      rw [← hplace]
      by_contra hentry
      unfold Site.refusal? at h
      rw [hdots, hslash, if_neg Bool.false_ne_true, if_neg hentry] at h
      by_cases hlong : s.isTooLong = true
      · rw [if_pos hlong] at h
        cases h
      · rw [if_neg hlong] at h
        cases h

end

end Disk

end ChatScribe
