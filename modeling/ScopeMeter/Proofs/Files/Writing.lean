import Mathlib.Data.List.TakeWhile
import ScopeMeter.Files.Tree

/-!
# Writing files into a directory

A file that is written into a directory becomes an entry of it, in the place of the one of its name
or behind the others (`Node.list_writeText`), and what stands in an entry is read back
(`Node.readText_join`).  Directories stay where they were (`Node.Grown`), so the path of the
directory leads to it as before.
-/

namespace ScopeMeter.Files

variable {name dir text : String} {entries : List (String × Node)} {node : Node}

theorem bind_eq_ok_iff {ε α β : Type} {x : Except ε α} {f : α → Except ε β} {b : β} :
    (x >>= f) = .ok b ↔ ∃ a, x = .ok a ∧ f a = .ok b := by
  cases x with
  | ok a => exact ⟨fun ok => ⟨a, rfl, ok⟩, fun ⟨_, is, ok⟩ => by cases is; exact ok⟩
  | error e => exact iff_of_false nofun fun ⟨_, is, _⟩ => nomatch is

/-! ## Entries -/

theorem lookupEntry_putEntry (name n : String) (node : Node) (entries : List (String × Node)) :
    lookupEntry n (putEntry name node entries) =
      if name = n then some node else lookupEntry n entries := by
  induction entries with
  | nil => rfl
  | cons e entries ih =>
    obtain ⟨k, old⟩ := e
    unfold putEntry
    split
    next same =>
      subst same
      simp only [lookupEntry]
      split <;> rfl
    next other =>
      simp only [lookupEntry, ih]
      by_cases here : k = n
      · subst here
        rw [if_pos rfl, if_pos rfl, if_neg (Ne.symm other)]
      · rw [if_neg here, if_neg here]

theorem mem_putEntry {e : String × Node} (member : e ∈ putEntry name node entries) :
    e = (name, node) ∨ e ∈ entries := by
  induction entries with
  | nil => exact .inl (List.mem_singleton.mp member)
  | cons head entries ih =>
    unfold putEntry at member
    split at member
    · exact (List.mem_cons.mp member).imp_right (List.mem_cons_of_mem _)
    · rcases List.mem_cons.mp member with first | later
      · exact .inr (first ▸ List.mem_cons_self)
      · exact (ih later).imp_right (List.mem_cons_of_mem _)

/-- A name that is new comes behind the others. -/
theorem map_fst_putEntry (name : String) (node : Node) (entries : List (String × Node)) :
    (putEntry name node entries).map Prod.fst =
      if name ∈ entries.map Prod.fst then entries.map Prod.fst
      else entries.map Prod.fst ++ [name] := by
  induction entries with
  | nil => rfl
  | cons e entries ih =>
    obtain ⟨k, old⟩ := e
    unfold putEntry
    split
    next same =>
      subst same
      exact (if_pos List.mem_cons_self).symm
    next other =>
      rw [List.map_cons, ih, List.map_cons]
      simp only [List.mem_cons, Ne.symm other, false_or]
      split <;> rfl

/-- Entries that are files. -/
def OnlyFiles (entries : List (String × Node)) : Prop := ∀ e ∈ entries, ∃ text, e.2 = .file text

theorem OnlyFiles.putEntry (only : OnlyFiles entries) (name : String) (text : Option String) :
    OnlyFiles (putEntry name (.file text) entries) := by
  intro e member
  rcases mem_putEntry member with rfl | old
  · exact ⟨text, rfl⟩
  · exact only e old

theorem mem_of_lookupEntry {α : Type} {key : String} {entries : List (String × α)} {value : α}
    (found : lookupEntry key entries = some value) : (key, value) ∈ entries := by
  induction entries with
  | nil => cases found
  | cons e entries ih =>
    obtain ⟨k, v⟩ := e
    rw [lookupEntry] at found
    split at found
    next same =>
      cases found
      exact same ▸ List.mem_cons_self
    · exact List.mem_cons_of_mem _ (ih found)

theorem OnlyFiles.lookup (only : OnlyFiles entries) (found : lookupEntry name entries = some node) :
    ∃ text, node = .file text :=
  only (name, node) (mem_of_lookupEntry found)

/-! ## Paths -/

theorem names_append_slash (front back : String) :
    names (front ++ "/" ++ back) = names front ++ names back := by
  have chars : (front ++ "/" ++ back).toList = front.toList ++ '/' :: back.toList := by
    simp only [String.toList_append, List.append_assoc]
    rfl
  rw [names, chars, List.splitOn, List.splitOnP_append_cons _ _ (by decide), List.map_append]
  rfl

theorem join_relative (nonempty : dir ≠ "") (relative : name.startsWith "/" = false) :
    join dir name = if dir.endsWith "/" then dir ++ name else dir ++ "/" ++ name := by
  rw [join, relative, String.isEmpty_eq_false_iff.mpr nonempty]
  rfl

/-- The names of a path continued by a relative one are those of both, but for an empty name at the
end of the first one. -/
theorem names_join (nonempty : dir ≠ "") (relative : name.startsWith "/" = false) :
    ∃ front, (names dir = front ∨ names dir = front ++ [""]) ∧
      names (join dir name) = front ++ names name := by
  rw [join_relative nonempty relative]
  split
  next slash =>
    rw [String.endsWith_eq_endsWith_toSlice, String.Slice.endsWith_string_iff,
      String.copy_toSlice] at slash
    obtain ⟨front, split⟩ := slash
    have split : dir = String.ofList front ++ "/" := by
      rw [← String.toList_inj, String.toList_append, String.toList_ofList, split]
    have above : names dir = names (String.ofList front) ++ [""] := by
      have last := names_append_slash (String.ofList front) ""
      rw [String.append_empty, ← split] at last
      exact last
    refine ⟨names (String.ofList front), .inr above, ?_⟩
    rw [split, names_append_slash]
  · exact ⟨names dir, .inl rfl, names_append_slash dir name⟩

namespace Node

variable {root root' : Node} {place here : List String}

/-! ## Directories that stay -/

/-- Directories stay directories, and names in them stay names. -/
def Grown (root root' : Node) : Prop :=
  ∀ path entries, root.get? path = some (.dir entries) →
    ∃ entries', root'.get? path = some (.dir entries') ∧
      ∀ n, (lookupEntry n entries).isSome → (lookupEntry n entries').isSome

theorem isSome_lookupEntry_putEntry (name : String) (node : Node) {n : String}
    (listed : (lookupEntry n entries).isSome) :
    (lookupEntry n (putEntry name node entries)).isSome := by
  rw [lookupEntry_putEntry]
  split
  · rfl
  · exact listed

theorem get?_put (dir : root.get? place = some (.dir entries)) (new : Node) (name : String) :
    (root.put new (place ++ [name])).get? place = some (.dir (putEntry name new entries)) := by
  induction place generalizing root with
  | nil =>
    cases dir
    rfl
  | cons n place ih =>
    cases root with
    | file => cases dir
    | dir es =>
      rw [get?] at dir
      split at dir
      next child found =>
        rw [List.cons_append, put, found, get?, lookupEntry_putEntry, if_pos rfl]
        exact ih dir
      · cases dir

/-- A file that is put where no directory is leaves all directories. -/
theorem grown_put (dir : root.get? place = some (.dir entries))
    (free : ∀ es, lookupEntry name entries ≠ some (.dir es)) (text : Option String) :
    root.Grown (root.put (.file text) (place ++ [name])) := by
  induction place generalizing root with
  | nil =>
    cases dir
    intro path es found
    cases path with
    | nil =>
      cases found
      exact ⟨_, rfl, fun n => isSome_lookupEntry_putEntry name _⟩
    | cons n path =>
      -- A path through the name itself leads to no directory: what stood there was a file, or nothing.
      have other : name ≠ n := by
        rintro rfl
        rw [get?] at found
        split at found
        next node entry =>
          cases node with
          | dir => exact free _ entry
          | file => cases path <;> cases found
        · cases found
      refine ⟨es, ?_, fun _ => id⟩
      rw [List.nil_append, put, get?, lookupEntry_putEntry, if_neg other]
      exact found
  | cons m place ih =>
    cases root with
    | file => cases dir
    | dir es₀ =>
      rw [get?] at dir
      split at dir
      next child entry =>
        intro path es found
        rw [List.cons_append, put, entry]
        cases path with
        | nil =>
          cases found
          exact ⟨_, rfl, fun n => isSome_lookupEntry_putEntry m _⟩
        | cons n path =>
          rw [get?, lookupEntry_putEntry]
          by_cases same : m = n
          · subst same
            rw [get?, entry] at found
            rw [if_pos rfl]
            exact ih dir path es found
          · rw [if_neg same]
            exact ⟨es, found, fun _ => id⟩
      · cases dir

/-! ## Following paths -/

theorem followFrom_append (root : Node) (here front back : List String) :
    root.followFrom here (front ++ back) =
      match root.followFrom here front with
      | .ok there => root.followFrom there back
      | .error number => .error number := by
  induction front generalizing here with
  | nil => rfl
  | cons name front ih =>
    rw [List.cons_append, followFrom, followFrom]
    split
    · split
      · exact ih here
      · split
        · exact ih (here.drop 1)
        · split
          · rfl
          · split
            · exact ih (name :: here)
            · rfl
    · rfl

/-- A path that can be followed leads to the same place when directories have only grown. -/
theorem Grown.followFrom (grown : root.Grown root') {path there : List String}
    (leads : root.followFrom here path = .ok there) : root'.followFrom here path = .ok there := by
  induction path generalizing here with
  | nil => exact leads
  | cons name path ih =>
    rw [Node.followFrom] at leads ⊢
    split at leads
    next entries dir =>
      -- A step reads the directory it is in, and asks for no more than whether a name is listed.
      obtain ⟨entries', dir', kept⟩ := grown _ _ dir
      rw [dir']
      dsimp only
      split at leads
      next still => rw [if_pos still]; exact ih leads
      next moves =>
        rw [if_neg moves]
        split at leads
        next up => rw [if_pos up]; exact ih leads
        next down =>
          rw [if_neg down]
          split at leads
          · cases leads
          next fits =>
            rw [if_neg fits]
            split at leads
            next node entry =>
              obtain ⟨node', entry'⟩ := Option.isSome_iff_exists.mp (kept name (by rw [entry]; rfl))
              rw [entry']
              exact ih leads
            · cases leads
    · cases leads

theorem get?_append (root : Node) (front back : List String) :
    root.get? (front ++ back) = (root.get? front).bind fun node => node.get? back := by
  induction front generalizing root with
  | nil => rfl
  | cons n front ih =>
    cases root with
    | file => rfl
    | dir es =>
      rw [List.cons_append, get?, get?]
      split
      · exact ih _
      · rfl

/-! ## Directories at a path -/

theorem checkPath_eq_ok_iff {path : String} : checkPath path = .ok () ↔
    '\x00' ∉ path.toList ∧ path ≠ "" ∧ path.utf8ByteSize ≤ pathLimit := by
  unfold checkPath
  rw [String.contains_char_eq]
  split
  next nul => exact iff_of_false nofun fun ok => ok.1 (of_decide_eq_true nul)
  next free =>
    split
    next empty => exact iff_of_false nofun fun ok => ok.2.1 (String.isEmpty_iff.mp empty)
    next filled =>
      split
      next long => exact iff_of_false nofun fun ok => absurd ok.2.2 (Nat.not_le_of_lt long)
      next fits =>
        refine iff_of_true rfl ⟨fun nul => free (decide_eq_true nul), ?_, Nat.le_of_not_lt fits⟩
        exact fun empty => filled (String.isEmpty_iff.mpr empty)

/-- A path leads to a directory. -/
structure At (root : Node) (dir : String) (here : List String) (entries : List (String × Node)) :
    Prop where
  checked : checkPath dir = .ok ()
  leads : root.followFrom [] (names dir) = .ok here
  entries : root.get? here.reverse = some (.dir entries)

theorem follow_eq_ok_iff {path : List String} :
    root.follow path = .ok place ↔ ∃ here, root.followFrom [] path = .ok here ∧
      here.reverse = place := by
  unfold follow
  split
  next here leads =>
    rw [leads]
    simp only [Except.ok.injEq, exists_eq_left']
  next number fails =>
    rw [fails]
    exact iff_of_false nofun nofun

theorem list_eq_ok_iff : root.list dir = .ok entries ↔ ∃ here, root.At dir here entries := by
  unfold list
  simp only [bind_eq_ok_iff, follow_eq_ok_iff]
  constructor
  · rintro ⟨_, checked, place, ⟨here, leads, rfl⟩, found⟩
    split at found
    next entries' is =>
      cases found
      exact ⟨here, checked, leads, is⟩
    · cases found
    · cases found
  · rintro ⟨here, checked, leads, found⟩
    refine ⟨(), checked, here.reverse, ⟨here, leads, rfl⟩, ?_⟩
    rw [found]

/-- A name that has something else than dots before its first slash, if it has one. -/
def StepsDown (name : String) : Prop := (name.toList.takeWhile (· ≠ '/')).any (· ≠ '.') = true

instance (name : String) : Decidable (StepsDown name) :=
  inferInstanceAs (Decidable (_ = true))

/-- The name of a file that fits into a directory. -/
structure FileName (dir name : String) : Prop where
  plain : '/' ∉ name.toList
  down : StepsDown name
  fits : name.utf8ByteSize ≤ nameLimit
  checked : checkPath (join dir name) = .ok ()

theorem StepsDown.relative (down : StepsDown name) : name.startsWith "/" = false := by
  rw [Bool.eq_false_iff]
  intro absolute
  obtain ⟨rest, is⟩ := String.startsWith_string_iff.mp absolute
  obtain ⟨c, before, _⟩ := List.any_eq_true.mp down
  rw [← is] at before
  cases before

/-- A name that leads somewhere else from the directory it is in. -/
def IsStep (name : String) : Prop := name ≠ "" ∧ name ≠ "." ∧ name ≠ ".."

/-- The part of a path before its first slash. -/
def firstName (path : String) : String := String.ofList (path.toList.takeWhile (· ≠ '/'))

theorem StepsDown.isStep (down : StepsDown name) : IsStep (firstName name) := by
  obtain ⟨c, before, other⟩ := List.any_eq_true.mp down
  have apart : ∀ dots : String, dots.toList.all (· = '.') = true → firstName name ≠ dots := by
    rintro dots all same
    rw [← same, firstName, String.toList_ofList, List.all_eq_true] at all
    exact of_decide_eq_true other (of_decide_eq_true (all c before))
  exact ⟨apart "" (by decide), apart "." (by decide), apart ".." (by decide)⟩

theorem StepsDown.isStep_of_plain (down : StepsDown name) (plain : '/' ∉ name.toList) :
    IsStep name := by
  have whole : name.toList.takeWhile (· ≠ '/') = name.toList := by
    apply List.takeWhile_eq_self_iff.mpr
    intro c member
    exact decide_eq_true fun slash => plain (slash ▸ member)
  have step := down.isStep
  rwa [firstName, whole, String.ofList_toList] at step

theorem names_of_plain (plain : '/' ∉ name.toList) : names name = [name] := by
  rw [names, List.splitOn_eq_singleton plain, List.map_singleton, String.ofList_toList]

/-- A name with a slash has the part before it as its first name. -/
theorem names_of_slash (slash : '/' ∈ name.toList) : ∃ rest, rest ≠ [] ∧
    names name = firstName name :: rest := by
  obtain ⟨first, rest, cut, before⟩ := List.eq_append_cons_of_mem slash
  have whole : name = String.ofList first ++ "/" ++ String.ofList rest := by
    rw [← String.toList_inj, cut]
    simp only [String.toList_append, String.toList_ofList, List.append_assoc]
    rfl
  have plain : '/' ∉ (String.ofList first).toList := by rwa [String.toList_ofList]
  refine ⟨names (String.ofList rest), ?_, ?_⟩
  · exact fun none => List.splitOnP_ne_nil _ _ (List.map_eq_nil_iff.mp none)
  · have all : ∀ c ∈ first, decide (c ≠ '/') = true := fun c member =>
      decide_eq_true fun slash => before (slash ▸ member)
    have start : firstName name = String.ofList first := by
      rw [firstName, cut, List.takeWhile_append_of_pos all, List.takeWhile_cons_of_neg (by decide),
        List.append_nil]
    rw [start, whole, names_append_slash, names_of_plain plain]
    rfl

theorem followFrom_step {rest there : List String}
    (dir : root.get? here.reverse = some (.dir entries))
    (step : IsStep name) : root.followFrom here (name :: rest) = .ok there ↔
      name.utf8ByteSize ≤ nameLimit ∧ (lookupEntry name entries).isSome ∧
        root.followFrom (name :: here) rest = .ok there := by
  obtain ⟨filled, still, up⟩ := step
  have moves : ¬(decide (name = "") || decide (name = ".")) = true := by
    rw [Bool.or_eq_true, decide_eq_true_iff, decide_eq_true_iff]
    exact fun either => either.elim filled still
  rw [followFrom, dir]
  dsimp only
  rw [if_neg moves, if_neg up]
  split
  next long => exact iff_of_false nofun fun ⟨fits, _⟩ => absurd fits (Nat.not_le_of_lt long)
  next fits =>
    split
    next node entry =>
      rw [entry]
      exact ⟨fun leads => ⟨Nat.le_of_not_lt fits, rfl, leads⟩, fun ⟨_, _, leads⟩ => leads⟩
    next absent =>
      rw [absent]
      exact iff_of_false nofun nofun

/-- Before an entry the path of the directory can be followed. -/
theorem At.front (at_ : root.At dir here entries) (down : StepsDown name) :
    ∃ front, names (join dir name) = front ++ names name ∧ root.followFrom [] front = .ok here := by
  have nonempty : dir ≠ "" := by
    rintro rfl
    exact (checkPath_eq_ok_iff.mp at_.checked).2.1 rfl
  obtain ⟨front, above, split⟩ := names_join nonempty down.relative
  refine ⟨front, split, ?_⟩
  have leads := at_.leads
  rcases above with same | slash
  · rwa [same] at leads
  · -- The empty name behind the last slash stays in the directory.
    rw [slash, followFrom_append] at leads
    split at leads
    next there ahead =>
      rw [ahead]
      unfold followFrom at leads
      split at leads
      · rwa [if_pos (by decide)] at leads
      · cases leads
    · cases leads

/-- Nothing is below a file. -/
theorem eq_of_followFrom_file {path there : List String} {content : Option String}
    (file : root.get? here.reverse = some (.file content))
    (leads : root.followFrom here path = .ok there) : there = here := by
  cases path with
  | nil =>
    cases leads
    rfl
  | cons name path =>
    rw [Node.followFrom, file] at leads
    cases leads

/-- What stands in an entry of a directory is read at the path of the entry. -/
theorem At.readText (at_ : root.At dir here entries) (file : FileName dir name)
    (found : lookupEntry name entries = some (.file (some text))) :
    root.readText (join dir name) = .ok text := by
  obtain ⟨front, split, leads⟩ := at_.front file.down
  have step := file.down.isStep_of_plain file.plain
  have place : root.followFrom [] (names (join dir name)) = .ok (name :: here) := by
    rw [split, names_of_plain file.plain, followFrom_append, leads]
    exact (followFrom_step at_.entries step).mpr ⟨file.fits, by rw [found]; rfl, rfl⟩
  have node : root.get? (name :: here).reverse = some (.file (some text)) := by
    rw [List.reverse_cons, get?_append, at_.entries, Option.bind_some, get?, found]
    rfl
  unfold Node.readText
  simp only [bind_eq_ok_iff, follow_eq_ok_iff]
  refine ⟨(), file.checked, _, ⟨_, place, rfl⟩, ?_⟩
  rw [node]

/-- A name with a slash leads through an entry, so nothing is written at it in a directory that
holds only files. -/
theorem At.placeOf_plain (at_ : root.At dir here entries) (only : OnlyFiles entries)
    (down : StepsDown name) {place : Place} {path : List String}
    (is : dropSlashes path = path) (path_eq : path = names (join dir name))
    (placed : root.placeOf path = .ok place) :
    '/' ∉ name.toList ∧ place = { above := here.reverse, entries, name } := by
  obtain ⟨front, split, leads⟩ := at_.front down
  unfold placeOf at placed
  rw [is, path_eq, split] at placed
  -- What stands before a slash would be an entry, so a file, and nothing can be put below it.
  have plain : '/' ∉ name.toList := by
    intro slash
    obtain ⟨rest, more, steps⟩ := names_of_slash slash
    rw [steps, List.dropLast_append_of_ne_nil (List.cons_ne_nil _ _),
      List.dropLast_cons_of_ne_nil more, followFrom_append, leads] at placed
    dsimp only at placed
    split at placed
    next => cases placed
    next there ahead =>
      obtain ⟨_, listed, ahead⟩ := (followFrom_step at_.entries down.isStep).mp ahead
      obtain ⟨node, entry⟩ := Option.isSome_iff_exists.mp listed
      obtain ⟨text, rfl⟩ := only.lookup entry
      have file : root.get? (firstName name :: here).reverse = some (.file text) := by
        rw [List.reverse_cons, get?_append, at_.entries, Option.bind_some, get?, entry]
        rfl
      rw [eq_of_followFrom_file file ahead, file] at placed
      cases placed
  refine ⟨plain, ?_⟩
  rw [names_of_plain plain, List.dropLast_concat, List.getLast?_concat, leads] at placed
  simp only [at_.entries] at placed
  cases placed
  rfl

/-- A file that is written into a directory that holds only files becomes an entry of it. -/
theorem list_writeText (listed : root.list dir = .ok entries) (only : OnlyFiles entries)
    (down : StepsDown name) (written : root.writeText (join dir name) text = .ok root') :
    FileName dir name ∧ root'.list dir = .ok (putEntry name (.file (some text)) entries) := by
  obtain ⟨here, at_⟩ := list_eq_ok_iff.mp listed
  obtain ⟨_, checked, written⟩ := bind_eq_ok_iff.mp written
  split at written
  next tree made =>
    cases written
    unfold writeAt at made
    split at made
    · cases made
    next place placed =>
      split at made
      · cases made
      next whole =>
        rw [Bool.or_eq_true, not_or, decide_eq_true_iff, not_not] at whole
        obtain ⟨plain, rfl⟩ := at_.placeOf_plain only down whole.2 rfl placed
        split at made
        · cases made
        next fits =>
          have file : FileName dir name := ⟨plain, down, Nat.le_of_not_lt fits, checked⟩
          split at made
          · cases made
          next free =>
            cases made
            have grown := grown_put at_.entries free (some text)
            exact ⟨file, list_eq_ok_iff.mpr ⟨here, at_.checked, grown.followFrom at_.leads,
              get?_put at_.entries _ name⟩⟩
  · cases written

/-- A file whose name fits can be written. -/
theorem exists_writeText (listed : root.list dir = .ok entries) (only : OnlyFiles entries)
    (file : FileName dir name) (text : String) :
    ∃ root', root.writeText (join dir name) text = .ok root' := by
  obtain ⟨here, at_⟩ := list_eq_ok_iff.mp listed
  obtain ⟨front, split, leads⟩ := at_.front file.down
  obtain ⟨filled, still, up⟩ := file.down.isStep_of_plain file.plain
  have path : names (join dir name) = front ++ [name] := by
    rw [split, names_of_plain file.plain]
  have whole : dropSlashes (front ++ [name]) = front ++ [name] := by
    rw [dropSlashes, List.reverse_append, List.reverse_singleton, List.singleton_append,
      List.dropWhile_cons_of_neg (by rwa [decide_eq_true_iff]), List.reverse_cons,
      List.reverse_reverse]
  have placed : root.placeOf (front ++ [name]) =
      .ok { above := here.reverse, entries, name } := by
    unfold placeOf
    rw [whole, List.dropLast_concat, List.getLast?_concat, leads]
    simp only [at_.entries]
    rfl
  have moves : ¬({ above := here.reverse, entries, name : Place }.isDots ||
      decide (dropSlashes (front ++ [name]) ≠ front ++ [name])) = true := by
    rw [Bool.or_eq_true, decide_eq_true_iff, Place.isDots, Bool.or_eq_true, decide_eq_true_iff,
      decide_eq_true_iff]
    exact fun either => either.elim (fun dots => dots.elim still up) fun cut => cut whole
  have free : ∀ es, lookupEntry name entries ≠ some (.dir es) := by
    intro es entry
    obtain ⟨_, is⟩ := only.lookup entry
    cases is
  unfold writeText
  rw [file.checked, path]
  have written : ∃ tree, root.writeAt (front ++ [name]) text = .ok tree := by
    unfold writeAt
    rw [placed]
    dsimp only
    rw [if_neg moves, if_neg (Nat.not_lt.mpr file.fits)]
    split
    next es entry => exact absurd entry (free es)
    next => exact ⟨_, rfl⟩
  obtain ⟨tree, written⟩ := written
  rw [written]
  exact ⟨tree, rfl⟩

end Node

end ScopeMeter.Files
