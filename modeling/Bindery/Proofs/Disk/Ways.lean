import Bindery.Proofs.Disk.Parents
import Bindery.Proofs.Disk.Runs

/-! # Ways to a directory — what making directories comes to

    A path that leads to a directory and from there on by names has a route
    (`Store.Route`).  Along the names directories can be made until one of them is
    too long or is that of a file (`Store.Reaches`).  Making the directories of the
    path makes those that are missing so far and says what is in the way, if
    anything (`perform_createFolders`); so it does the same on all stores that have
    files at the same places on the way. -/

namespace Bindery

namespace Store

variable {store next : Store} {path : String} {start here location deep : Location}
  {names front back done rest init parts : List String} {name last : String}

/-! ## Routes -/

/-- From where there is no directory no step leads on, whatever it is. -/
theorem step_of_not_folder (h : store.entry? here ≠ some .folder) (piece other : String) :
    store.step here piece = store.step here other := by
  unfold step
  split
  · rfl
  · rfl
  · rename_i hfolder
    exact absurd hfolder h

/-- Dots on the way lead nowhere else, unless they are the end of it. -/
theorem foldlM_step_filter (habove : ".." ∉ parts) (hlast : parts.getLast? ≠ some ".") :
    parts.foldlM store.step here = (parts.filter (!isDots ·)).foldlM store.step here := by
  induction parts generalizing here with
  | nil => rfl
  | cons piece parts ih =>
      have hrest : ∀ {here}, parts.foldlM store.step here
          = (parts.filter (!isDots ·)).foldlM store.step here := by
        cases parts with
        | nil => exact rfl
        | cons next parts =>
            exact ih (List.not_mem_of_not_mem_cons habove) (List.getLast?_cons_cons ▸ hlast)
      by_cases hdots : isDots piece = true
      · obtain rfl := eq_of_isDots (List.ne_of_not_mem_cons habove).symm hdots
        rw [List.filter_cons_of_neg (by simp [hdots]), List.foldlM_cons]
        by_cases hfolder : store.entry? here = some .folder
        · rw [step_here.mpr ⟨hfolder, rfl⟩]
          exact hrest
        · -- a name comes later, and it does not lead on either
          obtain ⟨name, more, hnames⟩ : ∃ name more, parts.filter (!isDots ·) = name :: more := by
            refine List.exists_cons_of_ne_nil fun hnil => hlast ?_
            cases hend : parts.getLast? with
            | none => rw [List.getLast?_eq_none_iff.mp hend]; rfl
            | some final =>
                have hmem := List.mem_of_getLast? hend
                have hfinal := List.filter_eq_nil_iff.mp hnil final hmem
                rw [Bool.not_eq_true, Bool.not_eq_false'] at hfinal
                rw [List.getLast?_cons, hend, Option.getD_some, eq_of_isDots
                  (fun heq => habove (heq ▸ List.mem_cons_of_mem _ hmem)) hfinal]
          rw [hnames, List.foldlM_cons]
          cases hstep : store.step here "." with
          | ok reached => exact absurd (folder_of_step hstep) hfolder
          | error fault =>
              rw [step_of_not_folder hfolder name ".", hstep]
              rfl
      · rw [List.filter_cons_of_pos (by simp [hdots]), List.foldlM_cons, List.foldlM_cons]
        exact bind_congr fun reached => hrest

/-- A path whose pieces lead to a directory and from there on by names. -/
structure Leads (store : Store) (path : String) (start : Location) (names : List String) : Prop where
  folder : store.entry? start = some .folder
  way : ∃ front rest, pieces path = front ++ rest ∧ store.follow path front = .ok start
    ∧ ".." ∉ rest ∧ rest.getLast? ≠ some "." ∧ rest.filter (!isDots ·) = names

/-- One that a system takes. -/
structure Route (store : Store) (path : String) (start : Location) (names : List String) : Prop
    extends store.Leads path start names where
  check : checkPath path = .ok ()

namespace Leads

/-- No name on a route stands for something else. -/
theorem isDots (h : store.Leads path start names) (hname : name ∈ names) : isDots name = false := by
  obtain ⟨front, rest, -, -, -, -, rfl⟩ := h.way
  simpa using (List.mem_filter.mp hname).2

/-- The last name on a route is the last piece of the path. -/
theorem exists_pieces (h : store.Leads path start (init ++ [last])) : ∃ front rest,
    pieces path = front ++ rest ++ [last] ∧ store.follow path front = .ok start
      ∧ ".." ∉ rest ∧ rest.filter (!Store.isDots ·) = init := by
  obtain ⟨front, rest, hpieces, hfront, habove, hlast, hnames⟩ := h.way
  have hlastDots := h.isDots (List.mem_append_right _ List.mem_cons_self)
  cases rest using List.reverseRecOn with
  | nil => exact absurd hnames.symm (by simp)
  | append_singleton rest final =>
      have hfinal : Store.isDots final = false := Bool.eq_false_iff.mpr fun hdots => hlast (by
        rw [List.getLast?_concat, eq_of_isDots (fun heq => habove (heq ▸ by simp)) hdots])
      rw [List.filter_append, List.filter_cons_of_pos (by simp [hfinal]), List.filter_nil] at hnames
      obtain ⟨rfl, hsame⟩ := List.append_inj' hnames rfl
      obtain rfl := List.singleton_inj.mp hsame
      exact ⟨front, rest, by rw [hpieces, List.append_assoc], hfront,
        fun hmem => habove (List.mem_append_left _ hmem), rfl⟩

/-- The last name is not the only piece when what is in front of it is no directory. -/
theorem pieces_ne (h : store.Leads path start (init ++ [last]))
    (hinit : store.entry? (start ++ init) ≠ some .folder) : pieces path ≠ [last] := by
  intro hone
  obtain ⟨front, rest, hpieces, -, -, rfl⟩ := h.exists_pieces
  obtain ⟨-, rfl⟩ := List.append_eq_nil_iff.mp
    (List.append_left_eq_self.mp (hpieces.symm.trans hone))
  exact hinit (by rw [List.filter_nil, List.append_nil]; exact h.folder)

/-- The directory of a path leads as the path does in front of its last name. -/
theorem exists_isParent (h : store.Leads path start (init ++ [last]))
    (hfar : FilePath.isAbsolute path = true ∨ pieces path ≠ [last]) :
    ∃ above front, FilePath.IsParent path above front ∧ store.Leads above start init := by
  obtain ⟨front, rest, hpieces, hfront, habove, rfl⟩ := h.exists_pieces
  have hlast : Store.isDots last = false := h.isDots (List.mem_append_right _ List.mem_cons_self)
  obtain ⟨parent, hparent⟩ := FilePath.exists_isParent hpieces
    (fun heq => Bool.eq_false_iff.mp hlast (heq ▸ rfl))
    (hfar.imp_right fun hne hnil => hne (by rw [hpieces, hnil, List.nil_append]))
  have hfollow : ∀ parts, store.follow parent parts = store.follow path parts := fun parts => by
    rw [follow, follow, hparent.absolute]
  refine ⟨parent, _, hparent, h.folder, ?_⟩
  obtain ⟨dots, hsplit, hdots⟩ := hparent.pieces
  have hidle : ∀ {parts : List String}, (∀ part ∈ parts, part = ".") →
      parts.filter (!Store.isDots ·) = [] := fun hall =>
    List.filter_eq_nil_iff.mpr fun part hpart => by rw [hall part hpart]; decide
  by_cases hnames : rest.filter (!Store.isDots ·) = []
  · -- nothing but dots is behind the directory
    refine ⟨pieces parent, [], (List.append_nil _).symm, ?_, List.not_mem_nil, by simp, hnames.symm⟩
    have hwhole : store.follow path (pieces parent ++ dots) = .ok start := by
      rw [← hsplit, follow, List.foldlM_append]
      refine bind_eq_ok.mpr ⟨start, hfront, ?_⟩
      have hstay := @foldlM_step_eq_ok store start _ habove (hnames ▸ List.forall_mem_nil _)
        fun front hway => by
          rw [hnames, List.prefix_nil] at hway
          rw [hway, List.append_nil]
          exact h.folder
      rwa [hnames, List.append_nil] at hstay
    rw [follow, List.foldlM_append] at hwhole
    obtain ⟨reached, hreached, hstay⟩ := bind_eq_ok.mp hwhole
    have hsame := eq_of_foldlM_step (fun hmem => absurd (hdots _ hmem) (by decide)) hstay
    rw [hidle hdots, List.append_nil] at hsame
    rw [hfollow, hsame]
    exact hreached
  · rcases List.append_eq_append_iff.mp hsplit with ⟨behind, hparts, hrest⟩ | ⟨mid, -, hmid⟩
    · rw [hrest, List.filter_append, hidle hdots, List.append_nil] at hnames ⊢
      refine ⟨front, behind, hparts, (hfollow front).trans hfront,
        fun hmem => habove (hrest ▸ List.mem_append_left _ hmem), fun hlastDot => ?_, rfl⟩
      -- a dot would be the only piece
      rcases hparent.ends with hone | hend
      · obtain ⟨init, rfl⟩ := List.getLast?_eq_some_iff.mp hlastDot
        rw [hparts, List.length_append, List.length_append, List.length_singleton] at hone
        obtain rfl : init = [] := List.length_eq_zero_iff.mp (by omega)
        exact hnames rfl
      · rw [hparts, List.getLast?_append, hlastDot] at hend
        exact hend rfl
    · exact absurd (hidle fun part hpart => hdots part (hmid ▸ List.mem_append_right _ hpart)) hnames

end Leads

namespace Route

variable (h : store.Route path start names)

include h

/-- The names on a route are proper unless they are too long. -/
theorem proper (hname : name ∈ names) (hshort : name.utf8ByteSize ≤ nameLimit) :
    ProperName name := by
  obtain ⟨front, rest, hpieces, -, -, -, rfl⟩ := h.way
  obtain ⟨hmem, hdots⟩ := List.mem_filter.mp hname
  have hpiece : name ∈ pieces path := hpieces ▸ List.mem_append_right _ hmem
  refine ⟨FilePath.ordinary_of_mem_pieces hpiece (by simpa using hdots), hshort, fun c hc => ?_⟩
  obtain ⟨chars, hchars, rfl⟩ := List.mem_map.mp (List.mem_filter.mp hpiece).1
  rw [String.toList_ofList] at hc
  exact (checkPath_eq_ok.mp h.check).1 c (Text.mem_of_mem_splitAt hchars hc)

/-- Where a route leads. -/
theorem locate : store.locate path = names.foldlM store.step start := by
  obtain ⟨front, rest, hpieces, hfront, habove, hlast, rfl⟩ := h.way
  unfold Store.locate
  rw [h.check, follow, hpieces, List.foldlM_append]
  show ((front.foldlM store.step _) >>= fun reached => rest.foldlM store.step reached) = _
  unfold follow at hfront
  rw [hfront]
  exact foldlM_step_filter habove hlast

/-- A route is one as long as the directories stay. -/
theorem keeps (hkeeps : store.KeepsFolders next) : next.Route path start names := by
  obtain ⟨front, rest, hpieces, hfront, hrest⟩ := h.way
  exact ⟨⟨hkeeps.folders _ h.folder, front, rest, hpieces, hkeeps.follow hfront, hrest⟩, h.check⟩

omit h

/-- An entry can be put where a route leads. -/
theorem place (h : store.Route path start (init ++ [last])) :
    store.place path = (store.locate path).map some := by
  obtain ⟨front, rest, hpieces, -⟩ := h.exists_pieces
  have hlast : Store.isDots last = false := h.isDots (List.mem_append_right _ List.mem_cons_self)
  unfold Store.place Store.locate
  rw [h.check, hpieces, List.getLast?_concat, List.dropLast_concat]
  show (store.follow path (front ++ rest) >>= fun folder => store.step folder last >>= fun location =>
      pure (if Store.isDots last = true then none else some location))
    = (store.follow path (front ++ rest ++ [last])).map some
  have hwhole : store.follow path (front ++ rest ++ [last])
      = (store.follow path (front ++ rest) >>= fun folder => store.step folder last) := by
    unfold follow
    generalize front ++ rest = parts
    rw [List.foldlM_append]
    exact bind_congr fun folder => bind_pure (store.step folder last)
  rw [hwhole, hlast]
  cases store.follow path (front ++ rest) with
  | error fault => rfl
  | ok folder =>
      show (store.step folder last >>= fun location => pure (some location))
        = (store.step folder last).map some
      cases store.step folder last <;> rfl

/-- The directory of a path with a route has the route in front of its last name. -/
theorem exists_parent (h : store.Route path start (init ++ [last]))
    (hfar : FilePath.isAbsolute path = true ∨ pieces path ≠ [last]) :
    ∃ above, FilePath.parent? path = some above ∧ above.length < path.length
      ∧ store.Route above start init := by
  obtain ⟨above, front, hparent, hleads⟩ := h.toLeads.exists_isParent hfar
  exact ⟨above, hparent.parent, hparent.length_lt, hleads, hparent.checkPath h.check⟩

end Route

/-! ## Making one directory -/

/-- Making the directory of a route comes to where the route leads, and to what is there. -/
theorem Route.perform_ensureFolder (h : store.Route path start (init ++ [last])) :
    store.perform (ensureFolder path) = match store.locate path with
      | .error fault => (.error fault, store)
      | .ok location => match store.entry? location with
        | none => (.ok (), store.put location .folder)
        | some .folder => (.ok (), store)
        | some (.file _) => (.error .exists, store) := by
  rw [Store.perform_ensureFolder]
  unfold makeFolder isFolder find
  rw [h.place]
  cases store.locate path with
  | error fault => rfl
  | ok location =>
      obtain ⟨found, hfound⟩ : ∃ found, store.entry? location = found := ⟨_, rfl⟩
      simp only [Except.map, bind, Except.bind, hfound]
      rcases found with _ | _ | contents
      · rfl
      · rfl
      · cases endsInSlash path <;> rfl

/-! ## How far directories can be made -/

/-- How far directories can be made along names: to `done`, before a name that is too long or that
    of a file. -/
structure Reaches (store : Store) (start : Location) (names done rest : List String) : Prop where
  split : names = done ++ rest
  short : ∀ name ∈ done, name.utf8ByteSize ≤ nameLimit
  clear : ∀ front, front <+: done → store.entry? (start ++ front) = none
    ∨ store.entry? (start ++ front) = some .folder
  blocked : ∀ name more, rest = name :: more → nameLimit < name.utf8ByteSize
    ∨ ∃ contents, store.entry? (start ++ (done ++ [name])) = some (.file contents)

/-- Directories can always be made so far. -/
theorem exists_reaches (hfolder : store.entry? start = some .folder) (names : List String) :
    ∃ done rest, store.Reaches start names done rest := by
  induction names using List.reverseRecOn with
  | nil =>
      refine ⟨[], [], rfl, List.forall_mem_nil _, fun front hfront => ?_, nofun⟩
      rw [List.prefix_nil.mp hfront, List.append_nil]
      exact .inr hfolder
  | append_singleton names last ih =>
      obtain ⟨done, rest, rfl, hshort, hclear, hblocked⟩ := ih
      cases rest with
      | cons name more =>
          refine ⟨done, name :: more ++ [last], List.append_assoc _ _ _, hshort, hclear, ?_⟩
          intro name' more' heq
          rw [List.cons_append, List.cons.injEq] at heq
          exact hblocked name' more (heq.1 ▸ rfl)
      | nil =>
          rw [List.append_nil]
          by_cases hfree : last.utf8ByteSize ≤ nameLimit
              ∧ ∀ contents, store.entry? (start ++ (done ++ [last])) ≠ some (.file contents)
          · refine ⟨done ++ [last], [], (List.append_nil _).symm, List.forall_mem_append.mpr
              ⟨hshort, List.forall_mem_singleton.mpr hfree.1⟩, fun front hfront => ?_, nofun⟩
            rcases List.prefix_concat_iff.mp hfront with rfl | hfront
            · match hentry : store.entry? (start ++ (done ++ [last])) with
              | none => exact .inl rfl
              | some .folder => exact .inr rfl
              | some (.file contents) => exact absurd hentry (hfree.2 contents)
            · exact hclear front hfront
          · refine ⟨done, [last], rfl, hshort, hclear, fun name more heq => ?_⟩
            obtain ⟨rfl, rfl⟩ := List.cons.inj heq
            rcases not_and_or.mp hfree with hlong | hfile
            · exact .inl (by omega)
            · exact .inr (by simpa using hfile)

/-- What comes of making directories when some names are left. -/
def halt : (rest : List String) → Except FileFault Unit
  | [] => .ok ()
  | name :: more => .error (if nameLimit < name.utf8ByteSize then .nameTooLong
      else if more = [] then .exists else .notADirectory)

/-- A store with directories all the way to a location, and no other entry changed. -/
structure Opens (deep : Location) (before after : Store) : Prop where
  workingFolder : after.workingFolder = before.workingFolder
  wellFormed : after.WellFormed
  clear : ∀ location, location <+: deep → before.entry? location = none
    ∨ before.entry? location = some .folder
  entries : ∀ location, after.entry? location
    = if location <+: deep then some .folder else before.entry? location

/-- A store that has the directories is one. -/
theorem Opens.refl (hstore : store.WellFormed) (h : store.entry? deep = some .folder) :
    store.Opens deep store := by
  have habove : ∀ location, location <+: deep → store.entry? location = some .folder :=
    fun location hway => hstore.folder_of_above hway h
  refine ⟨rfl, hstore, fun location hway => .inr (habove location hway), fun location => ?_⟩
  split
  · rename_i hway
    exact habove location hway
  · rfl

/-- Directories stay. -/
theorem Opens.keeps (h : store.Opens deep next) : store.KeepsFolders next := by
  refine ⟨h.workingFolder, fun location hfolder => ?_⟩
  rw [h.entries]
  split
  · rfl
  · exact hfolder

/-- What is put behind directories that are there or were opened. -/
theorem Opens.put (h : store.Opens deep next) (hname : ProperName name)
    (hnew : store.entry? (deep ++ [name]) = none) :
    store.Opens (deep ++ [name]) (next.put (deep ++ [name]) .folder) := by
  have hne := concat_ne_nil deep name
  have hnotDeep : ¬ deep ++ [name] <+: deep := fun hway => by
    have hlength := hway.length_le
    rw [List.length_append, List.length_singleton] at hlength
    omega
  have hnext : next.entry? (deep ++ [name]) = none := by
    rw [h.entries, if_neg hnotDeep, hnew]
  have hfolder : next.entry? deep = some .folder := by
    rw [h.entries, if_pos (List.prefix_refl _)]
  refine ⟨h.workingFolder, h.wellFormed.put hfolder hname (by rw [hnext]; nofun), ?_, ?_⟩
  · intro location hway
    rcases List.prefix_concat_iff.mp hway with rfl | hway
    · exact .inl hnew
    · exact h.clear location hway
  · intro location
    rw [entry?_put hne, h.entries]
    simp only [List.prefix_concat_iff]
    by_cases hlast : location = deep ++ [name] <;> by_cases hway : location <+: deep <;>
      simp [hlast, hway]

/-! ## Following names -/

/-- A name that is too long is not followed. -/
theorem step_long (hname : isDots name = false) (hfolder : store.entry? here = some .folder)
    (hlong : nameLimit < name.utf8ByteSize) : store.step here name = .error .nameTooLong := by
  rw [isDots, Bool.or_eq_false_iff] at hname
  rw [step, hfolder]
  dsimp only
  rw [if_neg (of_decide_eq_false hname.1), if_neg (of_decide_eq_false hname.2), if_pos hlong]

/-- Names are followed as far as directories are there. -/
theorem foldlM_step_folders (hstore : store.WellFormed)
    (hfolder : store.entry? (start ++ done) = some .folder)
    (hdots : ∀ name ∈ done, isDots name = false) :
    done.foldlM store.step start = .ok (start ++ done) := by
  have hself : done.filter (!isDots ·) = done :=
    List.filter_eq_self.mpr fun name hname => by rw [hdots name hname]; rfl
  have hproper := hstore.proper hfolder
  have hfollow := @foldlM_step_eq_ok store start _
    (fun habove => absurd (hdots _ habove) (by decide))
    (by rw [hself]; exact fun name hname => (hproper name (List.mem_append_right _ hname)).short)
    (by
      rw [hself]
      exact fun front hfront => hstore.folder_of_above
        ((List.prefix_append_right_inj start).mpr hfront) hfolder)
  rwa [hself] at hfollow

/-- Names that go on behind a directory that is missing lead nowhere. -/
theorem foldlM_step_missing (hfolder : store.entry? start = some .folder)
    (hdots : ∀ name ∈ front, isDots name = false)
    (hshort : ∀ name ∈ front, name.utf8ByteSize ≤ nameLimit)
    (hclear : ∀ part, part <+: front → store.entry? (start ++ part) = none
      ∨ store.entry? (start ++ part) = some .folder)
    (hnone : store.entry? (start ++ front) = none) (hback : back ≠ []) :
    (front ++ back).foldlM store.step start = .error .notFound := by
  induction front generalizing start with
  | nil =>
      rw [List.append_nil, hfolder] at hnone
      exact nomatch hnone
  | cons name front ih =>
      obtain ⟨hname, hdots⟩ := List.forall_mem_cons.mp hdots
      obtain ⟨hnameShort, hshort⟩ := List.forall_mem_cons.mp hshort
      rw [List.cons_append, List.foldlM_cons,
        (step_name hname).mpr ⟨hfolder, hnameShort, rfl⟩]
      show (front ++ back).foldlM store.step (start ++ [name]) = _
      rcases hclear [name] (List.cons_prefix_cons.mpr ⟨rfl, List.nil_prefix⟩) with hmissing | hthere
      · obtain ⟨next, more, hmore⟩ := List.exists_cons_of_ne_nil
          (List.append_ne_nil_of_right_ne_nil front hback)
        rw [hmore, List.foldlM_cons, step, hmissing]
        rfl
      · rw [← List.singleton_append, ← List.append_assoc] at hnone
        refine ih hthere hdots hshort (fun part hpart => ?_) hnone
        rw [List.append_assoc]
        exact hclear _ (List.cons_prefix_cons.mpr ⟨rfl, hpart⟩)

/-! ## Making all of them -/

namespace Reaches

variable (h : store.Reaches start names done rest)

include h

/-- When all that can be made is there, nothing is made, and what is in the way is told. -/
theorem perform_ensureFolder (hstore : store.WellFormed) (hnames : names = init ++ [last])
    (hroute : store.Route path start names)
    (hfolder : store.entry? (start ++ done) = some .folder) :
    store.perform (ensureFolder path) = (halt rest, store) := by
  have hdots : ∀ name ∈ done, isDots name = false := fun name hname =>
    hroute.isDots (h.split ▸ List.mem_append_left _ hname)
  have hlocate : store.locate path = rest.foldlM store.step (start ++ done) := by
    rw [hroute.locate, h.split, List.foldlM_append, foldlM_step_folders hstore hfolder hdots]
    rfl
  subst hnames
  rw [hroute.perform_ensureFolder, hlocate]
  cases rest with
  | nil =>
      show (match store.entry? (start ++ done) with
        | none => _
        | some .folder => _
        | some (.file _) => _) = _
      rw [hfolder]
      rfl
  | cons name more =>
      have hname : isDots name = false :=
        hroute.isDots (h.split ▸ List.mem_append_right _ List.mem_cons_self)
      rw [List.foldlM_cons, halt]
      by_cases hlong : nameLimit < name.utf8ByteSize
      · rw [step_long hname hfolder hlong, if_pos hlong]
        rfl
      · obtain ⟨contents, hfile⟩ := (h.blocked name more rfl).resolve_left hlong
        rw [← List.append_assoc] at hfile
        rw [(step_name hname).mpr ⟨hfolder, by omega, rfl⟩, if_neg hlong]
        cases more with
        | nil =>
            show (match store.entry? (start ++ done ++ [name]) with
              | none => _
              | some .folder => _
              | some (.file _) => _) = _
            rw [hfile]
            rfl
        | cons next more =>
            have hstep : store.step (start ++ done ++ [name]) next = .error .notADirectory := by
              rw [step, hfile]
            show (match (next :: more).foldlM store.step (start ++ done ++ [name]) with
              | .error fault => _
              | .ok location => _) = _
            rw [List.foldlM_cons, hstep]
            rfl

/-- Below what is missing only a name that is too long is in the way. -/
theorem long_of_missing (hstore : store.WellFormed) (hnone : store.entry? (start ++ done) = none)
    {more : List String} (hrest : rest = name :: more) : nameLimit < name.utf8ByteSize := by
  refine (h.blocked name more hrest).resolve_right ?_
  rintro ⟨contents, hfile⟩
  rw [← List.append_assoc] at hfile
  rw [hstore.parent hfile] at hnone
  exact nomatch hnone

/-- Names in front of the last that directories cannot be made for are in the way alone. -/
theorem halt_concat (hstore : store.WellFormed) (hnone : store.entry? (start ++ done) = none)
    {left : List String} (hrest : rest = left ++ [last]) (hleft : left ≠ []) :
    halt left = halt rest := by
  obtain ⟨name, more, rfl⟩ := List.exists_cons_of_ne_nil hleft
  have hlong := h.long_of_missing hstore hnone hrest
  rw [hrest, List.cons_append, halt, halt, if_pos hlong, if_pos hlong]

end Reaches

/-- Behind a directory that is there another one can be made. -/
theorem Route.perform_ensureFolder_new (hstore : store.WellFormed)
    (hroute : store.Route path start (init ++ [last]))
    (hfolder : store.entry? (start ++ init) = some .folder) (hshort : last.utf8ByteSize ≤ nameLimit)
    (hnone : store.entry? (start ++ init ++ [last]) = none) :
    store.perform (ensureFolder path) = (.ok (), store.put (start ++ init ++ [last]) .folder) := by
  have hlast : Store.isDots last = false := hroute.isDots (by simp)
  have hlocate : store.locate path = .ok (start ++ init ++ [last]) := by
    rw [hroute.locate, List.foldlM_append, foldlM_step_folders hstore hfolder fun name hname =>
      hroute.isDots (List.mem_append_left _ hname)]
    refine bind_eq_ok.mpr ⟨_, rfl, ?_⟩
    rw [List.foldlM_cons, (step_name hlast).mpr ⟨hfolder, hshort, rfl⟩]
    rfl
  rw [hroute.perform_ensureFolder, hlocate]
  show (match store.entry? (start ++ init ++ [last]) with
    | none => _
    | some .folder => _
    | some (.file _) => _) = _
  rw [hnone]

/-- What is told of names that are left is not that something is missing. -/
theorem halt_ne_notFound {fault : FileFault} (h : halt rest = .error fault) : fault ≠ .notFound := by
  rintro rfl
  cases rest with
  | nil => exact nomatch h
  | cons name more =>
      rw [halt] at h
      split at h
      · exact nomatch h
      · split at h <;> exact nomatch h

/-- How far directories can be made in front of the last name, when one is missing there. -/
theorem Reaches.exists_init (h : store.Reaches start (init ++ [last]) done rest)
    (hnone : store.entry? (start ++ done) = none)
    (hinit : store.entry? (start ++ init) ≠ some .folder) : ∃ before left,
      store.Reaches start init before left ∧ store.entry? (start ++ before) = none
        ∧ ((done = before ∧ rest = left ++ [last])
          ∨ (left = [] ∧ done = before ++ [last] ∧ rest = [])) := by
  have hway : done <+: init ++ [last] := ⟨rest, h.split.symm⟩
  rcases List.prefix_concat_iff.mp hway with rfl | ⟨left, rfl⟩
  · have hclear := (h.clear init (List.prefix_append _ _)).resolve_right hinit
    refine ⟨init, [], ⟨(List.append_nil _).symm, fun name hname =>
      h.short name (List.mem_append_left _ hname), fun front hfront =>
      h.clear front (hfront.trans (List.prefix_append _ _)), nofun⟩, hclear, .inr ⟨rfl, rfl, ?_⟩⟩
    exact List.self_eq_append_right.mp h.split
  · have hrest : rest = left ++ [last] :=
      (List.append_cancel_left ((List.append_assoc _ _ _).symm.trans h.split)).symm
    refine ⟨done, left, ⟨rfl, h.short, h.clear, fun name more heq => ?_⟩, hnone, .inl ⟨rfl, hrest⟩⟩
    exact h.blocked name (more ++ [last]) (by rw [hrest, heq, List.cons_append])

/-- A directory is not made as long as one in front of the last name is missing. -/
theorem Reaches.perform_ensureFolder_missing (h : store.Reaches start init done rest)
    (hroute : store.Route path start (init ++ [last])) (hnone : store.entry? (start ++ done) = none) :
    store.perform (ensureFolder path) = (.error .notFound, store) := by
  have hlocate : store.locate path = .error .notFound := by
    rw [hroute.locate, h.split, List.append_assoc]
    exact foldlM_step_missing hroute.folder (fun name hname => hroute.isDots (h.split ▸ by simp [hname]))
      h.short h.clear hnone (by simp)
  rw [hroute.perform_ensureFolder, hlocate]

/-- Once the directories in front of the last name are opened, the last one is made, or it is told
    what is in the way. -/
theorem perform_ensureFolder_opened (hstore : store.WellFormed)
    (hroute : store.Route path start (init ++ [last]))
    (h : store.Reaches start (init ++ [last]) done rest) (hnone : store.entry? (start ++ done) = none)
    (hopens : store.Opens (start ++ init) next)
    (hcases : (done = init ∧ rest = [last]) ∨ (done = init ++ [last] ∧ rest = [])) : ∃ final,
      next.perform (ensureFolder path) = (halt rest, final) ∧ store.Opens (start ++ done) final := by
  have hrouteNext := hroute.keeps hopens.keeps
  have hfolder : next.entry? (start ++ init) = some .folder := by
    rw [hopens.entries, if_pos (List.prefix_refl _)]
  rcases hcases with ⟨rfl, rfl⟩ | ⟨rfl, rfl⟩
  · have hlong := h.long_of_missing hstore hnone rfl
    have hreaches : next.Reaches start (done ++ [last]) done [last] := by
      refine ⟨rfl, h.short, fun front hfront => .inr ?_, fun name more heq => .inl ?_⟩
      · rw [hopens.entries, if_pos ((List.prefix_append_right_inj start).mpr hfront)]
      · rwa [← (List.cons.inj heq).1]
    exact ⟨next, hreaches.perform_ensureFolder hopens.wellFormed rfl hrouteNext hfolder, hopens⟩
  · have hshort : last.utf8ByteSize ≤ nameLimit := h.short last (by simp)
    rw [← List.append_assoc] at hnone ⊢
    have hnoneNext : next.entry? (start ++ init ++ [last]) = none := by
      rw [hopens.entries, if_neg, hnone]
      exact fun hway => absurd hway.length_le (by simp)
    exact ⟨_, hrouteNext.perform_ensureFolder_new hopens.wellFormed hfolder hshort hnoneNext,
      hopens.put (hroute.proper (by simp) hshort) hnone⟩

/-- **DIRECTORIES ARE MADE** as far as they can be, and what is in the way of the others is told. -/
theorem perform_createFoldersUpTo {fuel : Nat} (hstore : store.WellFormed)
    (hfuel : path.length < fuel) (hroute : store.Route path start names)
    (h : store.Reaches start names done rest) : ∃ next,
      store.perform (createFoldersUpTo fuel path) = (halt rest, next)
        ∧ store.Opens (start ++ done) next := by
  induction fuel generalizing path names done rest with
  | zero => omega
  | succ fuel ih =>
      have hpath : path ≠ "" := (checkPath_eq_ok.mp hroute.check).2.1
      rw [createFoldersUpTo, if_neg hpath]
      cases names using List.reverseRecOn with
      | nil =>
          obtain ⟨rfl, rfl⟩ := List.append_eq_nil_iff.mp h.split.symm
          rw [List.append_nil]
          exact ⟨store, perform_tryCatch_of_ok
            (perform_ensureFolder_of_folder hroute.locate hroute.folder), .refl hstore hroute.folder⟩
      | append_singleton init last =>
          by_cases hthere : store.entry? (start ++ done) = some .folder
          · have hensure := h.perform_ensureFolder hstore rfl hroute hthere
            refine ⟨store, ?_, .refl hstore hthere⟩
            cases hhalt : halt rest with
            | ok done =>
                rw [hhalt] at hensure
                exact perform_tryCatch_of_ok hensure
            | error fault =>
                rw [hhalt] at hensure
                rw [perform_tryCatch_of_error hensure]
                split
                · exact absurd rfl (halt_ne_notFound hhalt)
                · rfl
          · have hnone := (h.clear done (List.prefix_refl _)).resolve_right hthere
            by_cases hinit : store.entry? (start ++ init) = some .folder
            · -- only the last directory is missing
              obtain rfl : done = init ++ [last] := by
                refine (List.prefix_concat_iff.mp ⟨rest, h.split.symm⟩).resolve_right ?_
                exact fun hway => hthere (hstore.folder_of_above
                  ((List.prefix_append_right_inj start).mpr hway) hinit)
              obtain rfl : rest = [] := List.self_eq_append_right.mp h.split
              have hshort : last.utf8ByteSize ≤ nameLimit := h.short last (by simp)
              rw [← List.append_assoc] at hnone ⊢
              exact ⟨_, perform_tryCatch_of_ok
                (hroute.perform_ensureFolder_new hstore hinit hshort hnone),
                (Opens.refl hstore hinit).put (hroute.proper (by simp) hshort) hnone⟩
            · obtain ⟨before, left, hbefore, hmissing, hcases⟩ := h.exists_init hnone hinit
              rw [perform_tryCatch_of_error (hbefore.perform_ensureFolder_missing hroute hmissing)]
              obtain ⟨above, habove, hlength, hrouteAbove⟩ := hroute.exists_parent (.inr (hroute.pieces_ne hinit))
              obtain ⟨middle, hmiddle, hopens⟩ := ih (by omega) hrouteAbove hbefore
              rw [habove]
              show ∃ next, store.perform (createFoldersUpTo fuel above >>= fun _ => ensureFolder path)
                = _ ∧ _
              cases left with
              | cons name more =>
                  obtain ⟨rfl, hrest⟩ := hcases.resolve_right fun h => List.cons_ne_nil _ _ h.1
                  rw [← h.halt_concat hstore hnone hrest (List.cons_ne_nil _ _)]
                  exact ⟨middle, perform_bind_of_error hmiddle, hopens⟩
              | nil =>
                  obtain rfl : init = before := hbefore.split.trans (List.append_nil _)
                  rw [perform_bind_of_ok hmiddle]
                  exact perform_ensureFolder_opened hstore hroute h hnone hopens (by simpa using hcases)

/-- The same without a bound. -/
theorem perform_createFolders (hstore : store.WellFormed) (hroute : store.Route path start names)
    (h : store.Reaches start names done rest) : ∃ next,
      store.perform (createFolders path) = (halt rest, next) ∧ store.Opens (start ++ done) next :=
  perform_createFoldersUpTo hstore (Nat.lt_succ_self _) hroute h

end Store

end Bindery
