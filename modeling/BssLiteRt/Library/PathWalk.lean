import BssLiteRt.Library.FileSystem

/-!
Owns the two readings of a path with links and `..`: the walk of the operating
system, which needs every step to be there, and the real path, which is computed
step by step and takes what is missing as it is written. Where the walk arrives,
the two agree. A change that keeps the directories and the links keeps the walks.

A link holds the path that it leads to from the root, as it is written; a path is
the list of its components.
-/

namespace BssLiteRt.Library.FileSystem

variable {system : FileSystem}

/-! ### The walk -/

/-- The links that a path may take. -/
def linkLimit : Nat := 40

/-- The components one after the other, where `follow` walks on from the root. A walk
that creates also arrives where only the last component is missing. -/
def walkNames (system : FileSystem) (creates : Bool) (follow : List String → Except OsError Path)
    (here : Path) : List String → Except OsError Path
  | [] => .ok here
  | name :: rest =>
      if system.nodes here ≠ some .directory then .error .notADirectory
      else if name = "." then walkNames system creates follow here rest
      else if name = ".." then walkNames system creates follow here.dropLast rest
      else
        match system.nodes (here ++ [name]) with
        | none => if creates ∧ rest = [] then .ok (here ++ [name]) else .error .noSuchFile
        | some (.symlink target) => follow (target ++ rest)
        | some .directory | some (.file _) => walkNames system creates follow (here ++ [name]) rest

/-- The place that a path leads to from a directory, with a number of links to spare. -/
def walkTo (system : FileSystem) (creates : Bool) :
    Nat → Path → List String → Except OsError Path
  | 0 => walkNames system creates fun _ => .error .tooManyLinks
  | links + 1 => walkNames system creates (walkTo system creates links [])

@[simp] theorem walkTo_nil (creates : Bool) (links : Nat) (here : Path) :
    system.walkTo creates links here [] = .ok here := by
  cases links <;> rfl

theorem walkTo_cons (creates : Bool) (links : Nat) (here : Path) (name : String)
    (rest : List String) : system.walkTo creates links here (name :: rest) =
      if system.nodes here ≠ some .directory then .error .notADirectory
      else if name = "." then system.walkTo creates links here rest
      else if name = ".." then system.walkTo creates links here.dropLast rest
      else
        match system.nodes (here ++ [name]) with
        | none => if creates ∧ rest = [] then .ok (here ++ [name]) else .error .noSuchFile
        | some (.symlink target) =>
            match links with
            | 0 => .error .tooManyLinks
            | links + 1 => system.walkTo creates links [] (target ++ rest)
        | some .directory | some (.file _) => system.walkTo creates links (here ++ [name]) rest := by
  cases links <;> rfl

abbrev walk (system : FileSystem) (links : Nat) (here : Path) (path : List String) :
    Except OsError Path :=
  system.walkTo false links here path

/-- The same as a derivation that counts the links it takes, each of them walked
before what comes after it. -/
inductive Walks (system : FileSystem) : Path → List String → Path → Nat → Prop where
  | done (here : Path) : Walks system here [] here 0
  | same {here found : Path} {name : String} {rest : List String} {links : Nat}
      (directory : system.nodes here = some .directory) (isSame : name = ".")
      (later : Walks system here rest found links) : Walks system here (name :: rest) found links
  | up {here found : Path} {name : String} {rest : List String} {links : Nat}
      (directory : system.nodes here = some .directory) (isUp : name = "..")
      (later : Walks system here.dropLast rest found links) :
      Walks system here (name :: rest) found links
  | down {here found : Path} {name : String} {rest : List String} {node : Node} {links : Nat}
      (directory : system.nodes here = some .directory) (notSame : name ≠ ".") (notUp : name ≠ "..")
      (atName : system.nodes (here ++ [name]) = some node)
      (notLink : ∀ target, node ≠ .symlink target)
      (later : Walks system (here ++ [name]) rest found links) :
      Walks system here (name :: rest) found links
  | link {here between found : Path} {name : String} {rest target : List String} {first second : Nat}
      (directory : system.nodes here = some .directory) (notSame : name ≠ ".") (notUp : name ≠ "..")
      (atName : system.nodes (here ++ [name]) = some (.symlink target))
      (followed : Walks system [] target between first)
      (later : Walks system between rest found second) :
      Walks system here (name :: rest) found (first + second + 1)

section Walks

variable {here found : Path} {path : List String} {links : Nat}

/-- A walk arrives in one place and takes one number of links. -/
theorem Walks.deterministic {other : Path} {used : Nat}
    (first : Walks system here path found links) (second : Walks system here path other used) :
    other = found ∧ used = links := by
  induction first generalizing other used with
  | done => cases second with | done => exact ⟨rfl, rfl⟩
  | same _ isSame _ inductionHypothesis =>
      cases second with
      | same _ _ later => exact inductionHypothesis later
      | up _ isUp => exact absurd (isSame.symm.trans isUp) (by decide)
      | down _ notSame | link _ notSame => exact absurd isSame notSame
  | up _ isUp _ inductionHypothesis =>
      cases second with
      | same _ isSame => exact absurd (isSame.symm.trans isUp) (by decide)
      | up _ _ later => exact inductionHypothesis later
      | down _ _ notUp | link _ _ notUp => exact absurd isUp notUp
  | down _ notSame notUp atName notLink _ inductionHypothesis =>
      cases second with
      | same _ isSame => exact absurd isSame notSame
      | up _ isUp => exact absurd isUp notUp
      | down _ _ _ _ _ later => exact inductionHypothesis later
      | link _ _ _ isLink => exact absurd (Option.some.inj (atName.symm.trans isLink)) (notLink _)
  | link _ notSame notUp atName _ _ followedHypothesis laterHypothesis =>
      cases second with
      | same _ isSame => exact absurd isSame notSame
      | up _ isUp => exact absurd isUp notUp
      | down _ _ _ isNode notLink =>
          exact absurd (Option.some.inj (isNode.symm.trans atName)) (notLink _)
      | link _ _ _ isLink followed later =>
          have sameNode := Option.some.inj (atName.symm.trans isLink)
          obtain rfl := Node.symlink.inj sameNode
          obtain ⟨rfl, rfl⟩ := followedHypothesis followed
          obtain ⟨rfl, rfl⟩ := laterHypothesis later
          exact ⟨rfl, rfl⟩

/-- A walk over two paths is a walk over the one and then over the other. -/
theorem Walks.split {front back : List String}
    (both : Walks system here (front ++ back) found links) :
    ∃ between first second, Walks system here front between first ∧
      Walks system between back found second ∧ first + second = links := by
  induction front generalizing here links with
  | nil => exact ⟨here, 0, links, .done here, both, Nat.zero_add links⟩
  | cons name rest inductionHypothesis =>
      rw [List.cons_append] at both
      cases both with
      | same directory isSame later =>
          obtain ⟨between, first, second, walked, after, sum⟩ := inductionHypothesis later
          exact ⟨between, first, second, .same directory isSame walked, after, sum⟩
      | up directory isUp later =>
          obtain ⟨between, first, second, walked, after, sum⟩ := inductionHypothesis later
          exact ⟨between, first, second, .up directory isUp walked, after, sum⟩
      | down directory notSame notUp atName notLink later =>
          obtain ⟨between, first, second, walked, after, sum⟩ := inductionHypothesis later
          exact ⟨between, first, second, .down directory notSame notUp atName notLink walked, after,
            sum⟩
      | @link _ _ _ _ _ _ taken _ directory notSame notUp atName followed later =>
          obtain ⟨between, first, second, walked, after, sum⟩ := inductionHypothesis later
          exact ⟨between, taken + first + 1, second,
            .link directory notSame notUp atName followed walked, after, by omega⟩

theorem walkNames_walks {follow : List String → Except OsError Path}
    (follows : ∀ path found, follow path = .ok found →
      ∃ used < links, Walks system [] path found used)
    (arrives : walkNames system false follow here path = .ok found) :
    ∃ used ≤ links, Walks system here path found used := by
  fun_induction walkNames system false follow here path with
  | case1 here =>
      obtain rfl := Except.ok.inj arrives
      exact ⟨0, Nat.zero_le _, .done here⟩
  | case2 => cases arrives
  | case3 here rest directory inductionHypothesis =>
      obtain ⟨used, within, walked⟩ := inductionHypothesis arrives
      exact ⟨used, within, .same (not_not.mp directory) rfl walked⟩
  | case4 here rest directory _ inductionHypothesis =>
      obtain ⟨used, within, walked⟩ := inductionHypothesis arrives
      exact ⟨used, within, .up (not_not.mp directory) rfl walked⟩
  | case5 _ _ _ _ _ _ _ creates => exact absurd creates.1 Bool.false_ne_true
  | case6 => cases arrives
  | case7 here name rest directory notSame notUp target atName =>
      obtain ⟨used, within, walked⟩ := follows _ _ arrives
      obtain ⟨between, first, second, followed, later, rfl⟩ := walked.split
      exact ⟨first + second + 1, within,
        .link (not_not.mp directory) notSame notUp atName followed later⟩
  | case8 here name rest directory notSame notUp atName inductionHypothesis =>
      obtain ⟨used, within, walked⟩ := inductionHypothesis arrives
      exact ⟨used, within, .down (not_not.mp directory) notSame notUp atName nofun walked⟩
  | case9 here name rest directory notSame notUp number atName inductionHypothesis =>
      obtain ⟨used, within, walked⟩ := inductionHypothesis arrives
      exact ⟨used, within, .down (not_not.mp directory) notSame notUp atName nofun walked⟩

/-- No component of a path that is walked holds a NUL. -/
theorem Walks.noNul (walked : Walks system here path found links) : path.any hasNul = false := by
  induction walked with
  | done => rfl
  | same _ isSame _ inductionHypothesis =>
      rw [List.any_cons, inductionHypothesis, isSame]
      decide
  | up _ isUp _ inductionHypothesis =>
      rw [List.any_cons, inductionHypothesis, isUp]
      decide
  | down _ _ _ atName _ _ inductionHypothesis | link _ _ _ atName _ _ _ inductionHypothesis =>
      rw [List.any_cons, inductionHypothesis, hasNul_of_isName (isName_of_child atName)]
      rfl

/-- What the system walks, a derivation walks. -/
theorem walk_walks (arrives : system.walk links here path = .ok found) :
    ∃ used ≤ links, Walks system here path found used := by
  induction links generalizing here path found with
  | zero =>
      refine walkNames_walks (fun target between followed => ?_) arrives
      cases followed
  | succ links inductionHypothesis =>
      refine walkNames_walks (fun target between followed => ?_) arrives
      obtain ⟨used, within, walked⟩ := inductionHypothesis followed
      exact ⟨used, Nat.lt_succ_of_le within, walked⟩

/-- What a derivation walks is the beginning of a walk with enough links. -/
theorem Walks.walkTo_append (walked : Walks system here path found links) (creates : Bool)
    (back : List String) {spare : Nat} (enough : links ≤ spare) :
    system.walkTo creates spare here (path ++ back) =
      system.walkTo creates (spare - links) found back := by
  induction walked generalizing back spare with
  | done => rfl
  | same directory isSame _ inductionHypothesis =>
      rw [List.cons_append, walkTo_cons, if_neg (not_not.mpr directory), if_pos isSame,
        inductionHypothesis back enough]
  | up directory isUp _ inductionHypothesis =>
      rw [List.cons_append, walkTo_cons, if_neg (not_not.mpr directory), isUp, if_neg (by decide),
        if_pos rfl, inductionHypothesis back enough]
  | @down _ _ _ _ node _ directory notSame notUp atName notLink _ inductionHypothesis =>
      rw [List.cons_append, walkTo_cons, if_neg (not_not.mpr directory), if_neg notSame, if_neg notUp,
        atName]
      cases node with
      | symlink target => exact absurd rfl (notLink target)
      | directory | file => exact inductionHypothesis back enough
  | @link _ _ _ _ _ _ first second directory notSame notUp atName _ _ followedHypothesis
      laterHypothesis =>
      obtain ⟨spare, rfl⟩ : ∃ less, spare = less + 1 := ⟨spare - 1, by omega⟩
      rw [List.cons_append, walkTo_cons, if_neg (not_not.mpr directory), if_neg notSame, if_neg notUp,
        atName]
      dsimp only
      rw [followedHypothesis _ (by omega), laterHypothesis _ (by omega)]
      congr 1
      omega

/-- A derivation is walked with enough links. -/
theorem Walks.walk (walked : Walks system here path found links) {spare : Nat}
    (enough : links ≤ spare) : system.walk spare here path = .ok found := by
  have whole := walked.walkTo_append false [] enough
  rw [List.append_nil] at whole
  rw [FileSystem.walk, whole, walkTo_nil]

theorem walkNames_append_error {error : OsError} {creates : Bool} {back : List String}
    {follow followAll : List String → Except OsError Path} (longer : back ≠ [])
    (follows : ∀ path, follow path = .error error → followAll (path ++ back) = .error error)
    (fails : walkNames system false follow here path = .error error) :
    walkNames system creates followAll here (path ++ back) = .error error := by
  fun_induction walkNames system false follow here path with
  | case1 => cases fails
  | case2 here name rest notDirectory =>
      rw [List.cons_append, walkNames, if_pos notDirectory]
      exact fails
  | case3 here rest directory inductionHypothesis =>
      rw [List.cons_append, walkNames, if_neg directory, if_pos rfl, inductionHypothesis fails]
  | case4 here rest directory _ inductionHypothesis =>
      rw [List.cons_append, walkNames, if_neg directory, if_neg (by decide), if_pos rfl,
        inductionHypothesis fails]
  | case5 => cases fails
  | case6 here name rest directory notSame notUp absent _ =>
      have notLast : ¬ (creates = true ∧ rest ++ back = []) :=
        fun last => longer (List.append_eq_nil_iff.mp last.2).2
      rw [List.cons_append, walkNames, if_neg directory, if_neg notSame, if_neg notUp, absent]
      dsimp only
      rw [if_neg notLast]
      exact fails
  | case7 here name rest directory notSame notUp target atName =>
      rw [List.cons_append, walkNames, if_neg directory, if_neg notSame, if_neg notUp, atName]
      dsimp only
      rw [← List.append_assoc, follows _ fails]
  | case8 here name rest directory notSame notUp atName inductionHypothesis =>
      rw [List.cons_append, walkNames, if_neg directory, if_neg notSame, if_neg notUp, atName]
      exact inductionHypothesis fails
  | case9 here name rest directory notSame notUp number atName inductionHypothesis =>
      rw [List.cons_append, walkNames, if_neg directory, if_neg notSame, if_neg notUp, atName]
      exact inductionHypothesis fails

/-- A walk that fails does not get further. -/
theorem walkTo_append_error {error : OsError} {back : List String}
    (fails : system.walk links here path = .error error) (creates : Bool) (longer : back ≠ []) :
    system.walkTo creates links here (path ++ back) = .error error := by
  induction links generalizing here path with
  | zero => exact walkNames_append_error longer (fun _ => id) fails
  | succ links inductionHypothesis =>
      exact walkNames_append_error longer (fun _ => inductionHypothesis) fails

/-- A place where something stands is walked to straight. -/
theorem walks_straight {node : Node} (present : system.nodes (here ++ path) = some node)
    (notLink : ∀ target, node ≠ .symlink target) : Walks system here path (here ++ path) 0 := by
  induction path generalizing here with
  | nil =>
      rw [List.append_nil]
      exact .done here
  | cons name rest inductionHypothesis =>
      have directory : system.nodes here = some .directory := by
        refine (nodes_of_leading present (List.prefix_append _ _)).resolve_left fun same => ?_
        simp at same
      rw [List.append_cons] at present ⊢
      have later := inductionHypothesis present
      have atName : ∃ found, system.nodes (here ++ [name]) = some found ∧
          ∀ target, found ≠ .symlink target := by
        rcases nodes_of_leading present (List.prefix_append _ _) with same | isDirectory
        · rw [same]
          exact ⟨node, present, notLink⟩
        · exact ⟨.directory, isDirectory, nofun⟩
      obtain ⟨found, atName, foundNotLink⟩ := atName
      obtain ⟨notSame, notUp⟩ := not_dots_of_isName (isName_of_child atName)
      exact .down directory notSame notUp atName foundNotLink later

theorem walk_straight {node : Node} (present : system.nodes path = some node)
    (notLink : ∀ target, node ≠ .symlink target) (spare : Nat) :
    system.walk spare [] path = .ok path :=
  (@walks_straight system [] path node present notLink).walk (Nat.zero_le spare)

theorem walk_directory (present : system.nodes path = some .directory) (spare : Nat) :
    system.walk spare [] path = .ok path :=
  walk_straight present nofun spare

theorem walk_file {number : Nat} (present : system.nodes path = some (.file number))
    (spare : Nat) : system.walk spare [] path = .ok path :=
  walk_straight present nofun spare

/-- A walk from what is there, and is no link, arrives at such a place. -/
theorem Walks.present (walked : Walks system here path found links)
    (start : ∃ node, system.nodes here = some node ∧ ∀ target, node ≠ .symlink target) :
    ∃ node, system.nodes found = some node ∧ ∀ target, node ≠ .symlink target := by
  have atRoot : ∃ node, system.nodes [] = some node ∧ ∀ target, node ≠ .symlink target :=
    ⟨.directory, system.root, nofun⟩
  induction walked with
  | done => exact start
  | same _ _ _ inductionHypothesis => exact inductionHypothesis start
  | @up here _ _ _ _ directory _ _ inductionHypothesis =>
      apply inductionHypothesis
      by_cases isRoot : here = []
      · rw [isRoot]
        exact atRoot
      · exact ⟨.directory, system.rooted here _ isRoot directory, nofun⟩
  | down _ _ _ atName notLink _ inductionHypothesis => exact inductionHypothesis ⟨_, atName, notLink⟩
  | link _ _ _ _ _ _ followedHypothesis laterHypothesis =>
      exact laterHypothesis (followedHypothesis atRoot)

/-- Where a walk from the root arrives, a walk leads straight. -/
theorem walk_again (arrives : system.walk links [] path = .ok found) (others : Nat) :
    system.walk others [] found = .ok found := by
  obtain ⟨used, -, walked⟩ := walk_walks arrives
  obtain ⟨node, present, notLink⟩ := walked.present ⟨.directory, system.root, nofun⟩
  exact walk_straight present notLink others

end Walks

/-! ### Walks in a changed system -/

section Changed

variable {after : FileSystem} {here found : Path} {path : List String} {links : Nat}

/-- The directories and the links are where they were. -/
def Keeps (system after : FileSystem) : Prop :=
  ∀ place node, system.nodes place = some node → (∀ number, node ≠ .file number) →
    after.nodes place = some node

theorem Made.keeps (made : Made system after) : Keeps system after := by
  intro place node found _
  rcases made.nodes place with same | ⟨absent, -⟩
  · rw [same, found]
  · rw [found] at absent
    cases absent

theorem OnlyAt.keeps {place : Path} (onlyAt : OnlyAt place system after)
    (own : system.Unshared place) (notDirectory : system.nodes place ≠ some .directory) :
    Keeps system after := by
  intro other node found notFile
  rw [onlyAt.nodes other, found]
  rintro rfl
  cases node with
  | directory => exact notDirectory found
  | file number => exact notFile number rfl
  | symlink target => exact own.notLink target found

/-- A walk that goes on starts in a directory. -/
theorem Walks.start (walked : Walks system here path found links) :
    here = found ∨ system.nodes here = some .directory := by
  cases walked with
  | done => exact .inl rfl
  | same directory | up directory | down directory | link directory => exact .inr directory

/-- What a walk starts from is kept with what it arrives at. -/
theorem Walks.kept_start (keeps : Keeps system after) (walked : Walks system here path found links)
    (kept : after.nodes found = system.nodes found) : after.nodes here = system.nodes here := by
  rcases walked.start with rfl | directory
  · exact kept
  · rw [directory, keeps _ _ directory nofun]

/-- Where the directories and the links are kept, a walk arrives where it did. -/
theorem Walks.keeps (keeps : Keeps system after) (walked : Walks system here path found links)
    (kept : after.nodes found = system.nodes found) : Walks after here path found links := by
  induction walked with
  | done => exact .done _
  | same directory isSame _ inductionHypothesis =>
      exact .same (keeps _ _ directory nofun) isSame (inductionHypothesis kept)
  | up directory isUp _ inductionHypothesis =>
      exact .up (keeps _ _ directory nofun) isUp (inductionHypothesis kept)
  | down directory notSame notUp atName notLink later inductionHypothesis =>
      exact .down (keeps _ _ directory nofun) notSame notUp
        ((later.kept_start keeps kept).trans atName) notLink (inductionHypothesis kept)
  | link directory notSame notUp atName _ later followedHypothesis laterHypothesis =>
      exact .link (keeps _ _ directory nofun) notSame notUp (keeps _ _ atName nofun)
        (followedHypothesis (later.kept_start keeps kept)) (laterHypothesis kept)

/-- One place has lost its link or its file, or has got another file. -/
structure LosesAt (target : Path) (system after : FileSystem) : Prop where
  keeps : ∀ place node, place ≠ target → system.nodes place = some node →
    (∀ number, node ≠ .file number) → after.nodes place = some node
  was : system.nodes target ≠ some .directory
  now : ∀ node, after.nodes target = some node → ∃ number, node = .file number

/-- A walk got to the target and no further. -/
def Stops (target : Path) (after : FileSystem) (result : Except OsError Path) : Prop :=
  result = .ok target ∨
    ∃ error, result = .error error ∧ (error = .noSuchFile → after.nodes target = none)

theorem LosesAt.stops {target : Path} (loses : LosesAt target system after) (creates : Bool)
    (spare : Nat) (more : List String) :
    Stops target after (after.walkTo creates spare target more) := by
  cases more with
  | nil =>
      rw [walkTo_nil]
      exact .inl rfl
  | cons name rest =>
      have notDirectory : after.nodes target ≠ some .directory := by
        intro directory
        obtain ⟨number, same⟩ := loses.now _ directory
        cases same
      rw [walkTo_cons, if_pos notDirectory]
      exact .inr ⟨_, rfl, nofun⟩

/-- A step to the target is the last one. -/
theorem LosesAt.step {target : Path} {name : String} (loses : LosesAt target system after)
    (isTarget : here ++ [name] = target) (directory : after.nodes here = some .directory)
    (notDots : name ≠ "." ∧ name ≠ "..") (creates : Bool) (spare : Nat) (more : List String) :
    Stops target after (after.walkTo creates spare here (name :: more)) := by
  rw [walkTo_cons, if_neg (not_not.mpr directory), if_neg notDots.1, if_neg notDots.2, isTarget]
  cases atTarget : after.nodes target with
  | none =>
      dsimp only
      split
      · exact .inl rfl
      · exact .inr ⟨_, rfl, fun _ => atTarget⟩
  | some node =>
      obtain ⟨number, rfl⟩ := loses.now node atTarget
      exact loses.stops creates spare more

/-- A walk to a directory arrives where it did, or it stops where something was lost. -/
theorem Walks.loses {target : Path} (loses : LosesAt target system after)
    (walked : Walks system here path found links)
    (arrives : system.nodes found = some .directory) (creates : Bool) (back : List String)
    {spare : Nat} (enough : links ≤ spare) :
    after.walkTo creates spare here (path ++ back) =
        after.walkTo creates (spare - links) found back ∨
      Stops target after (after.walkTo creates spare here (path ++ back)) := by
  have kept {place : Path} (directory : system.nodes place = some .directory) :
      after.nodes place = some .directory :=
    loses.keeps place _ (fun same => loses.was (same ▸ directory)) directory nofun
  induction walked generalizing back spare with
  | done => exact .inl rfl
  | same directory isSame _ inductionHypothesis =>
      rw [List.cons_append, walkTo_cons, if_neg (not_not.mpr (kept directory)), if_pos isSame]
      exact inductionHypothesis arrives back enough
  | up directory isUp _ inductionHypothesis =>
      rw [List.cons_append, walkTo_cons, if_neg (not_not.mpr (kept directory)), isUp,
        if_neg (by decide), if_pos rfl]
      exact inductionHypothesis arrives back enough
  | down directory notSame notUp atName notLink later inductionHypothesis =>
      have isDirectory := later.start.elim (fun same => same ▸ arrives) id
      rw [List.cons_append, walkTo_cons, if_neg (not_not.mpr (kept directory)), if_neg notSame,
        if_neg notUp, kept isDirectory]
      exact inductionHypothesis arrives back enough
  | @link here _ _ name rest _ first second directory notSame notUp atName _ later followedHypothesis
      laterHypothesis =>
      by_cases isTarget : here ++ [name] = target
      · exact .inr (loses.step isTarget (kept directory) ⟨notSame, notUp⟩ _ _ _)
      · obtain ⟨spare, rfl⟩ : ∃ less, spare = less + 1 := ⟨spare - 1, by omega⟩
        rw [List.cons_append, walkTo_cons, if_neg (not_not.mpr (kept directory)), if_neg notSame,
          if_neg notUp, loses.keeps _ _ isTarget atName nofun]
        dsimp only
        have between := later.start.elim (fun same => same ▸ arrives) id
        have followed := @followedHypothesis between (rest ++ back) spare (by omega)
        rcases followed with goesOn | stops
        · rw [goesOn]
          have fewer : spare + 1 - (first + second + 1) = spare - first - second := by omega
          rw [fewer]
          exact laterHypothesis arrives back (by omega)
        · exact .inr stops

end Changed

/-! ### The real path -/

/-- What following the links of a path leaves: all of them resolved, a link that leads
back to itself with what follows it, a call too deep, or a name that no call takes. -/
inductive Followed where
  | resolved (path : Path)
  | unresolved (path : List String)
  | tooDeep
  | embeddedNull
deriving DecidableEq

/-- The components one after the other, where `follow` resolves the target of a link. -/
def followNames (linkAt : Path → Option (List String))
    (follow : List Path → List String → Followed) (inProgress : List Path) (here : Path) :
    List String → Followed
  | [] => .resolved here
  | name :: rest =>
      if name = "." then followNames linkAt follow inProgress here rest
      else if name = ".." then followNames linkAt follow inProgress here.dropLast rest
      else if hasNul name then .embeddedNull
      else
        match linkAt (here ++ [name]) with
        | none => followNames linkAt follow inProgress (here ++ [name]) rest
        | some target =>
            if here ++ [name] ∈ inProgress then .unresolved (here ++ name :: rest)
            else
              match follow ((here ++ [name]) :: inProgress) target with
              | .resolved between => followNames linkAt follow inProgress between rest
              | .unresolved between => .unresolved (between ++ rest)
              | .tooDeep => .tooDeep
              | .embeddedNull => .embeddedNull

/-- The links are followed by calls within calls, at most as deep as given. -/
def followLinks (linkAt : Path → Option (List String)) :
    Nat → List Path → Path → List String → Followed
  | 0 => fun _ _ _ => .tooDeep
  | depth + 1 =>
      followNames linkAt fun inProgress target => followLinks linkAt depth inProgress [] target

/-- `os.path.normpath` of a path from the root. -/
def normalPath (path : List String) : Path :=
  path.foldl (fun here name =>
    if name = "." then here else if name = ".." then here.dropLast else here ++ [name]) []

/-- The calls within calls that the interpreter makes by default. -/
def recursionLimit : Nat := 1000

/-- Why a path has no real path. -/
inductive Unreal where
  | tooDeep
  | embeddedNull
deriving DecidableEq

/-- The path without links, where it can be told, and without `..`. -/
def realPath (system : FileSystem) (path : List String) : Except Unreal Path :=
  match followLinks system.linkAt recursionLimit [] [] path with
  | .resolved found => .ok found
  | .unresolved found => .ok (normalPath found)
  | .tooDeep => .error .tooDeep
  | .embeddedNull => .error .embeddedNull

/-- New directories change no real path. -/
theorem Made.realPath {after : FileSystem} (made : Made system after) (path : List String) :
    after.realPath path = system.realPath path := by
  rw [FileSystem.realPath, made.linkAt, FileSystem.realPath]

section RealPath

variable {here found : Path} {path : List String} {links : Nat}

/-- The target of each link in progress takes at least so many links to walk. -/
def Above (system : FileSystem) (links : Nat) (inProgress : List Path) : Prop :=
  ∀ link ∈ inProgress, ∃ target between used, system.nodes link = some (.symlink target) ∧
    Walks system [] target between used ∧ links ≤ used

theorem Above.mono {inProgress : List Path} {fewer : Nat} (above : Above system links inProgress)
    (atMost : fewer ≤ links) : Above system fewer inProgress := by
  intro link member
  obtain ⟨target, between, used, isLink, walked, enough⟩ := above link member
  exact ⟨target, between, used, isLink, walked, atMost.trans enough⟩

/-- Where a walk arrives, following the links arrives. A link in progress would be
walked again within its own target, and that would take more links than it has. -/
theorem Walks.followLinks (walked : Walks system here path found links) {depth : Nat}
    (deep : links < depth) {inProgress : List Path} (above : Above system links inProgress) :
    followLinks system.linkAt depth inProgress here path = .resolved found := by
  obtain ⟨depth, rfl⟩ : ∃ less, depth = less + 1 := ⟨depth - 1, by omega⟩
  induction walked generalizing depth inProgress with
  | done => rfl
  | same _ isSame _ inductionHypothesis =>
      have later := inductionHypothesis above depth deep
      rw [FileSystem.followLinks] at later ⊢
      rw [followNames, if_pos isSame, later]
  | up _ isUp _ inductionHypothesis =>
      have later := inductionHypothesis above depth deep
      rw [FileSystem.followLinks] at later ⊢
      rw [followNames, isUp, if_neg (by decide), if_pos rfl, later]
  | down _ notSame notUp atName notLink _ inductionHypothesis =>
      have later := inductionHypothesis above depth deep
      have noNul := hasNul_of_isName (isName_of_child atName)
      have noTarget := linkAt_eq_none fun target isLink =>
        notLink target (Option.some.inj (atName.symm.trans isLink))
      rw [FileSystem.followLinks] at later ⊢
      rw [followNames, if_neg notSame, if_neg notUp, noNul, if_neg Bool.false_ne_true, noTarget]
      exact later
  | @link here between found name rest target first second _ notSame notUp atName followed _
      followedHypothesis laterHypothesis =>
      have notInProgress : here ++ [name] ∉ inProgress := by
        intro member
        obtain ⟨other, arrived, used, isLink, walkedTarget, enough⟩ := above _ member
        obtain rfl := Node.symlink.inj (Option.some.inj (atName.symm.trans isLink))
        obtain ⟨-, rfl⟩ := followed.deterministic walkedTarget
        omega
      have aboveTarget : Above system first ((here ++ [name]) :: inProgress) :=
        List.forall_mem_cons.mpr
          ⟨⟨target, between, first, atName, followed, le_refl _⟩, above.mono (by omega)⟩
      obtain ⟨less, rfl⟩ : ∃ less, depth = less + 1 := ⟨depth - 1, by omega⟩
      have resolved := followedHypothesis aboveTarget less (by omega)
      have later := laterHypothesis (above.mono (by omega)) (less + 1) (by omega)
      have noNul := hasNul_of_isName (isName_of_child atName)
      rw [FileSystem.followLinks] at later ⊢
      rw [followNames, if_neg notSame, if_neg notUp, noNul, if_neg Bool.false_ne_true,
        linkAt_eq_some.mpr atName]
      dsimp only
      rw [if_neg notInProgress, resolved]
      exact later

/-- Where the system walks, the real path is what it walks to. -/
theorem realPath_of_walk (arrives : system.walk linkLimit [] path = .ok found) :
    system.realPath path = .ok found := by
  obtain ⟨used, within, walked⟩ := walk_walks arrives
  have deep : used < recursionLimit := Nat.lt_of_le_of_lt within (by decide)
  rw [realPath, walked.followLinks deep (List.forall_mem_nil _)]

end RealPath

end BssLiteRt.Library.FileSystem
