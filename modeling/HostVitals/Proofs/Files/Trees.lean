import HostVitals.Execution.Programs

/-!
# Paths and proper trees

A path that does not start at the root goes on from the working directory.  In a proper tree the
names in a directory are distinct, so that a name stands for one entry.  What a path leads to in a
proper tree is proper, and changes keep a tree proper: all trees that come about by changes are.

Main results:

- `Node.Proper.find`: what is found in a proper tree is proper.
- `find_relative`: a relative path leads where the path joined to the working directory leads.
- `Node.Proper.apply`, `Node.Proper.changed`: a tree is proper after a change, and after many.
- `usualRoot_proper`: the files that every host has are a proper tree.
-/

namespace HostVitals.Files

open HostVitals.Text

/-- A tree whose directories have distinct names in them. -/
inductive Node.Proper : Node → Prop
  | file (bytes : List UInt8) (executable : Bool) : Node.Proper (.file bytes executable)
  | directory {entries : List (String × Node)} (hnames : (entries.map Prod.fst).Nodup)
      (hentries : ∀ entry ∈ entries, Node.Proper entry.2) : Node.Proper (.directory entries)
  | unreadable (error : SystemError) : Node.Proper (.unreadable error)
  | locked (error : SystemError) : Node.Proper (.locked error)

theorem Node.Proper.distinct {entries : List (String × Node)}
    (h : Node.Proper (.directory entries)) : (entries.map Prod.fst).Nodup := by
  cases h with
  | directory hnames _ => exact hnames

theorem Node.Proper.entries {entries : List (String × Node)}
    (h : Node.Proper (.directory entries)) : ∀ entry ∈ entries, entry.2.Proper := by
  cases h with
  | directory _ hentries => exact hentries

theorem emptyDirectory_proper : emptyDirectory.Proper :=
  .directory List.nodup_nil (by simp)

/-! ## Looking up -/

/-- A name is looked up as the entry that has it. -/
theorem mem_of_lookup {entries : List (String × Node)} {name : String} {node : Node}
    (h : entries.lookup name = some node) : (name, node) ∈ entries := by
  obtain ⟨before, after, rfl, -⟩ := List.lookup_eq_some_iff.1 h
  simp

/-- Among distinct names an entry is looked up by its name. -/
theorem lookup_of_mem {entries : List (String × Node)} (hnames : (entries.map Prod.fst).Nodup)
    {name : String} {node : Node} (h : (name, node) ∈ entries) :
    entries.lookup name = some node := by
  obtain ⟨before, after, rfl⟩ := List.append_of_mem h
  refine List.lookup_eq_some_iff.2 ⟨before, after, rfl, ?_⟩
  simp only [List.map_append, List.map_cons, List.nodup_append] at hnames
  intro entry hentry
  have hne := hnames.2.2 entry.1 (List.mem_map_of_mem hentry) name List.mem_cons_self
  simpa using fun heq => hne heq.symm

/-! ## Paths -/

/-- One step leads from proper nodes to proper ones. -/
theorem proper_step {trail next : List Node} {part : String} (h : ∀ node ∈ trail, node.Proper)
    (hstep : step trail part = .ok next) : ∀ node ∈ next, node.Proper := by
  unfold step at hstep
  split at hstep
  · next entries above =>
    have habove : ∀ node ∈ above, node.Proper :=
      fun node hnode => h node (List.mem_cons_of_mem _ hnode)
    have hhere : Node.Proper (.directory entries) := h _ List.mem_cons_self
    split at hstep
    · cases hstep
      exact h
    · split at hstep
      · cases hstep
        split
        · exact h
        · exact habove
      · split at hstep
        · cases hstep
        · split at hstep
          · next node hlookup =>
            cases hstep
            exact List.forall_mem_cons.2 ⟨hhere.entries _ (mem_of_lookup hlookup), h⟩
          · cases hstep
  · split at hstep
    · cases hstep
      exact h
    · cases hstep
  · cases hstep

theorem proper_follow {trail next : List Node} {parts : List String}
    (h : ∀ node ∈ trail, node.Proper) (hfollow : follow trail parts = .ok next) :
    ∀ node ∈ next, node.Proper := by
  induction parts generalizing trail with
  | nil =>
      cases hfollow
      exact h
  | cons part parts ih =>
      rw [follow, List.foldlM_cons] at hfollow
      cases hstep : step trail part with
      | error error =>
          rw [hstep] at hfollow
          cases hfollow
      | ok middle =>
          rw [hstep] at hfollow
          exact ih (proper_step h hstep) hfollow

/-- What is found in a proper tree is proper. -/
theorem Node.Proper.find {root node : Node} {path workingDirectory : String} (h : root.Proper)
    (hfind : root.find path workingDirectory = .ok node) : node.Proper := by
  simp only [Node.find] at hfind
  split at hfind
  · cases hfind
  split at hfind
  · cases hfind
  split at hfind
  · cases hfind
  unfold Node.walk at hfind
  split at hfind
  · next hfollow =>
    cases hfind
    exact proper_follow (by simpa using h) hfollow _ List.mem_cons_self
  · cases hfind
  · cases hfind

/-- An empty part in front of others changes nothing. -/
theorem follow_empty_cons (trail : List Node) {parts : List String} (h : parts ≠ []) :
    follow trail ("" :: parts) = follow trail parts := by
  obtain ⟨part, parts, rfl⟩ := List.exists_cons_of_ne_nil h
  rcases trail with _ | ⟨⟨bytes, executable⟩ | entries | error | error, above⟩ <;> rfl

theorem pathParts_ne_nil (path : String) : pathParts path ≠ [] := by
  simpa [pathParts] using pieces_ne_nil isSlash path.toList

section

variable {first second : String} (hfirst : isAbsolute first = true)
  (hsecond : isAbsolute second = false)

include hfirst hsecond

theorem isAbsolute_joinPath : isAbsolute (joinPath first second) = true := by
  obtain ⟨rest, hrest⟩ := List.head?_eq_some_iff.1 (of_decide_eq_true hfirst)
  unfold joinPath
  rw [hsecond]
  split
  · contradiction
  · split <;> simp [isAbsolute, hrest]

/-- A joined path leads over the first one and on from there. -/
theorem follow_joinPath (trail : List Node) :
    follow trail (pathParts (joinPath first second)) =
      follow trail (pathParts first ++ pathParts second) := by
  have hfilled : first.isEmpty = false := by
    rw [Bool.eq_false_iff, Ne, String.isEmpty_iff]
    rintro rfl
    cases hfirst
  by_cases hend : first.toList.getLast? = some '/'
  · -- the slash at the end of the first path leaves an empty part there
    obtain ⟨before, hbefore⟩ := List.getLast?_eq_some_iff.1 hend
    have hjoin : (joinPath first second).toList = before ++ '/' :: second.toList := by
      simp [joinPath, hsecond, hbefore]
    have hparts : pathParts (joinPath first second) =
        (pieces isSlash before).map String.ofList ++ pathParts second := by
      rw [pathParts, hjoin, pieces_append_cut isSlash rfl, List.map_append]
      rfl
    have hempty : pathParts first = (pieces isSlash before).map String.ofList ++ [""] := by
      rw [pathParts, hbefore, pieces_append_cut isSlash rfl, List.map_append]
      rfl
    rw [hparts, hempty, List.append_assoc, follow_append, follow_append]
    simp only [List.singleton_append, follow_empty_cons _ (pathParts_ne_nil second)]
  · have hjoin : (joinPath first second).toList = first.toList ++ '/' :: second.toList := by
      simp [joinPath, hsecond, hend, hfilled]
    rw [pathParts, hjoin, pieces_append_cut isSlash rfl, List.map_append]
    rfl

end

/-- A relative path leads where the path joined to that of the working directory leads, if that can
be followed too. -/
theorem find_relative {path workingDirectory : String} (hpath : isAbsolute path = false)
    (hdirectory : isAbsolute workingDirectory = true) (h : Followable path)
    (hjoined : Followable (joinPath workingDirectory path)) (root : Node) (other : String) :
    root.find path workingDirectory = root.find (joinPath workingDirectory path) other := by
  rw [find_eq_walk h, find_eq_walk hjoined]
  simp only [partsFrom, hpath, isAbsolute_joinPath hdirectory hpath, Bool.false_eq_true, if_false,
    if_true, Node.walk, follow_joinPath hdirectory hpath]

/-! ## Changes -/

/-- Setting an entry changes no name, or adds one that is new. -/
theorem map_fst_setEntry (name : String) (node : Node) (entries : List (String × Node)) :
    (setEntry name node entries).map Prod.fst =
      if name ∈ entries.map Prod.fst then entries.map Prod.fst
      else entries.map Prod.fst ++ [name] := by
  induction entries with
  | nil => simp [setEntry]
  | cons entry entries ih =>
      unfold setEntry
      by_cases hname : entry.1 = name
      · simp [hname]
      · have hother : name ≠ entry.1 := fun heq => hname heq.symm
        simp only [if_neg hname, List.map_cons, ih, List.mem_cons, hother, false_or]
        split <;> rfl

theorem mem_setEntry {name : String} {node : Node} {entries : List (String × Node)}
    {entry : String × Node} (h : entry ∈ setEntry name node entries) :
    entry = (name, node) ∨ entry ∈ entries := by
  induction entries with
  | nil => exact .inl (List.mem_singleton.1 h)
  | cons first entries ih =>
      unfold setEntry at h
      split at h
      · rcases List.mem_cons.1 h with rfl | h
        · exact .inl rfl
        · exact .inr (List.mem_cons_of_mem _ h)
      · rcases List.mem_cons.1 h with rfl | h
        · exact .inr List.mem_cons_self
        · exact (ih h).imp_right (List.mem_cons_of_mem _)

/-- A directory stays proper when a proper entry is set. -/
theorem proper_setEntry {name : String} {node : Node} {entries : List (String × Node)}
    (h : Node.Proper (.directory entries)) (hnode : node.Proper) :
    Node.Proper (.directory (setEntry name node entries)) := by
  refine .directory ?_ ?_
  · rw [map_fst_setEntry]
    split
    · exact h.distinct
    · next hnew =>
      refine List.nodup_append.2 ⟨h.distinct, by simp, ?_⟩
      rintro other hother _ hname rfl
      exact hnew (List.mem_singleton.1 hname ▸ hother)
  · intro entry hentry
    rcases mem_setEntry hentry with rfl | hentry
    · exact hnode
    · exact h.entries entry hentry

/-- A directory stays proper when entries are taken out. -/
theorem proper_filter {entries : List (String × Node)} (h : Node.Proper (.directory entries))
    (keep : String × Node → Bool) : Node.Proper (.directory (entries.filter keep)) :=
  .directory (h.distinct.sublist (List.filter_sublist.map _))
    (fun entry hentry => h.entries entry (List.mem_filter.1 hentry).1)

theorem proper_entriesIn {node : Option Node} (h : ∀ n ∈ node, n.Proper) :
    Node.Proper (.directory (entriesIn node)) := by
  unfold entriesIn
  split
  · exact h _ rfl
  · exact emptyDirectory_proper

/-- A change below an entry sets the entry, or takes it out when nothing is left. -/
theorem alter_cons (change : Option Node → Option Node) (name : String) (parts : List String)
    (node : Option Node) :
    alter change (name :: parts) node =
      (alter change parts ((entriesIn node).lookup name)).elim
        (node.map (fun _ => .directory ((entriesIn node).filter (fun entry => entry.1 ≠ name))))
        (fun child => some (.directory (setEntry name child (entriesIn node)))) := by
  rw [alter]
  cases alter change parts ((entriesIn node).lookup name) <;> rfl

/-- What takes proper nodes to proper ones keeps a tree proper wherever it is done. -/
theorem proper_alter {change : Option Node → Option Node}
    (hchange : ∀ node, (∀ n ∈ node, n.Proper) → ∀ n ∈ change node, n.Proper)
    (parts : List String) (node : Option Node) (h : ∀ n ∈ node, n.Proper) :
    ∀ n ∈ alter change parts node, n.Proper := by
  induction parts generalizing node with
  | nil => exact hchange node h
  | cons name parts ih =>
      have hentries := proper_entriesIn h
      have hbelow := ih ((entriesIn node).lookup name)
        (fun n hn => hentries.entries _ (mem_of_lookup hn))
      rw [alter_cons]
      cases halter : alter change parts ((entriesIn node).lookup name) with
      | none =>
          intro n hn
          obtain ⟨_, _, rfl⟩ := Option.map_eq_some_iff.1 hn
          exact proper_filter hentries _
      | some child =>
          rintro n ⟨rfl⟩
          exact proper_setEntry hentries (hbelow child halter)

theorem proper_effect (change : Change) (node : Option Node) (h : ∀ n ∈ node, n.Proper) :
    ∀ n ∈ change.effect node, n.Proper := by
  cases change with
  | write path bytes =>
      rintro n ⟨rfl⟩
      exact .file bytes false
  | makeDirectory path =>
      change ∀ n ∈ orEmptyDirectory node, n.Proper
      unfold orEmptyDirectory
      split
      · exact h
      · rintro n ⟨rfl⟩
        exact emptyDirectory_proper
  | remove path => simp [Change.effect]
  | makeExecutable path =>
      change ∀ n ∈ asProgram node, n.Proper
      unfold asProgram
      split
      · rintro n ⟨rfl⟩
        exact .file _ true
      · exact h

/-- A change keeps a tree proper. -/
theorem Node.Proper.apply {root : Node} (h : root.Proper) (change : Change) :
    (root.apply change).Proper := by
  have haltered := proper_alter (proper_effect change)
    ((pathParts change.path).filter (fun part => !part.isEmpty)) (some root)
    (by rintro n ⟨rfl⟩; exact h)
  unfold Node.apply
  dsimp only
  cases hafter : alter change.effect ((pathParts change.path).filter (fun part => !part.isEmpty))
      (some root) with
  | none => exact emptyDirectory_proper
  | some node => exact haltered node hafter

/-- Many changes keep a tree proper. -/
theorem Node.Proper.changed {root : Node} (h : root.Proper) (changes : List Change) :
    (changes.foldl Node.apply root).Proper := by
  induction changes generalizing root with
  | nil => exact h
  | cons change changes ih => exact ih (h.apply change)

/-! ## The usual files -/

theorem usualBin_proper : usualBin.Proper := by
  refine .directory (by decide +kernel) ?_
  intro entry hentry
  obtain ⟨name, -, rfl⟩ := List.mem_map.1 hentry
  exact .file [] true

/-- The files that every host has are a proper tree. -/
theorem usualRoot_proper : usualRoot.Proper := by
  have hdev : Node.Proper (.directory [("null", .file [] false)]) :=
    .directory (by simp) (by simpa using Node.Proper.file [] false)
  have husr : Node.Proper (.directory [("bin", usualBin)]) :=
    .directory (by simp) (by simpa using usualBin_proper)
  refine .directory (by decide +kernel) ?_
  simp only [List.forall_mem_cons]
  exact ⟨usualBin_proper, husr, emptyDirectory_proper, emptyDirectory_proper,
    emptyDirectory_proper, hdev, by simp⟩

end HostVitals.Files
