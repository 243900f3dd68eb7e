import Avserver.AviSave.Card

/-!
# Deleting a directory

`del_dir` of `sd_file.c` on a file system: the path that it is given is looked up, a file is
removed, and the entries of a directory are deleted one after the other, each by a call for its
own path, which is put together in a buffer of `DIR_LEN` bytes, and a call of `rmdir`.  An entry is
reached by its path, so each of these calls walks from the root of the file system through
directories that have been emptied in part.

The recursion ends, a directory is left empty, and nothing else changes (`del_dir_spec`).  The
argument is about the places of the tree: `Place p C` says that `C` is a file system with a hole at
the path `p`, and that what the calls do to the path, they do to what fills the hole.
-/

namespace AviSave.Card

/-! ### Paths in a file system -/

/-- `DIR_LEN` -/
def dirLen : Nat := 128

/-- The file or directory that a path leads to from a node; the empty path leads to the node
itself. -/
def Node.at : List Name → Node → Option Node
  | [], node => some node
  | name :: path, .dir entries => (entries.lookup name).bind (Node.at path)
  | _ :: _, .file => none

/-- The node after the change by `f` of what a path leads to, or `none` if the node itself is
removed. -/
def Node.change (f : Node → Option Node) : List Name → Node → Option Node
  | [], node => f node
  | name :: path, .dir entries =>
      some (.dir (entries.filterMap fun (n, node) =>
        if n = name then (node.change f path).map (n, ·) else some (n, node)))
  | _ :: _, .file => some .file

/-- The file system `fs` after the change by `f` of what a `path` leads to; its root is not
removed. -/
def Node.update (f : Node → Option Node) (path : List Name) (fs : Node) : Node :=
  (fs.change f path).getD fs

/-- `remove`, which removes a file and leaves a directory. -/
def removeFile : Node → Option Node
  | .file => none
  | .dir entries => some (.dir entries)

/-- `rmdir`, which removes a directory if it is empty, and leaves everything else. -/
def removeEmpty : Node → Option Node
  | .dir [] => none
  | node => some node

/-- `is_special_dir` -/
def isSpecialDir (path : Name) : Bool := path = ['.'] || path = ['.', '.']

/-- `del_dir`, with a bound on the depth of the recursion: the file system behind it; none, if the
bound is exceeded, the buffer for a path is too small, or there is nothing at the path: then
`readdir` is given a null pointer. -/
def delDirAt : Nat → Node → Name → Option Node
  | 0, _, _ => none
  | fuel + 1, fs, dirPath =>
      match fs.at (components dirPath) with
      | some .file => some (fs.update removeFile (components dirPath))
      | some (.dir entries) =>
          (['.'] :: ['.', '.'] :: entries.map Prod.fst).foldlM (fun fs dName =>
            if isSpecialDir dName then some fs
            else if (dirPath ++ '/' :: dName).length < dirLen then
              (delDirAt fuel fs (dirPath ++ '/' :: dName)).map
                (Node.update removeEmpty (components (dirPath ++ '/' :: dName)))
            else none) fs
      | none => none

/-- The `name` may be that of an entry: it is not empty, has no slash in it, and is not `.` or
`..`. -/
def IsName (name : Name) : Prop := name ≠ [] ∧ '/' ∉ name ∧ isSpecialDir name = false

/-- In every directory of the tree the names of the entries are names, and different from each
other. -/
inductive Tidy : Node → Prop where
  | file : Tidy .file
  | dir {entries : Entries} (hnodup : (entries.map Prod.fst).Nodup)
      (hname : ∀ e ∈ entries, IsName e.1) (hsub : ∀ e ∈ entries, Tidy e.2) : Tidy (.dir entries)

variable {p q : List Name} {C : Node → Node} {f : Node → Option Node} {x y fs node : Node}
  {name path : Name} {pre post entries : Entries}

/-- The path of the entry with the `name` in the directory at `path` has the components of `path`,
and then the name. -/
theorem components_entry (path : Name) (h : IsName name) :
  components (path ++ '/' :: name) = components path ++ [name]
  := by
  rw [components, List.splitOn_append_cons_self, List.splitOn_eq_singleton h.2.1,
    List.filter_append, List.filter_cons_of_pos (by simpa using h.1), components]
  rfl

theorem Node.at_append (p q : List Name) (node : Node) :
  node.at (p ++ q) = (node.at p).bind (Node.at q)
  := by
  induction p generalizing node with
  | nil => rfl
  | cons n p ih =>
      cases node with
      | file => rfl
      | dir entries =>
          rw [List.cons_append, Node.at, Node.at, Option.bind_assoc]
          congr 1
          funext node
          apply ih

/-! ### Places -/

/-- None of the `entries` has the `name`. -/
def Without (name : Name) (entries : Entries) : Prop := ∀ e ∈ entries, e.1 ≠ name

theorem without_nil : Without name [] := by
  intro e he
  contradiction

/-- The lookup of a `name` yields the entry `x` that has it, if none of the entries before it
does. -/
theorem lookup_entry (hpre : Without name pre) (x : Node) :
  (pre ++ (name, x) :: post).lookup name = some x
  := by
  apply List.lookup_eq_some_iff.mpr
  refine ⟨pre, post, rfl, ?_⟩
  intro e he
  apply bne_iff_ne.mpr (Ne.symm (hpre e he))

/-- The lookup of another name `n` does not depend on the entry with the `name`: it may be `x` or
`y`. -/
theorem lookup_other {n : Name} (hne : n ≠ name) (x y : Node) :
  (pre ++ (name, x) :: post).lookup n = (pre ++ (name, y) :: post).lookup n
  := by
  rw [List.lookup_append, List.lookup_append, List.lookup_cons, List.lookup_cons,
    beq_eq_false_iff_ne.mpr hne]

theorem Without.append (hpre : Without name pre) (hpost : Without name post) :
  Without name (pre ++ post)
  := by
  intro e he
  cases List.mem_append.mp he with
  | inl he => apply hpre e he
  | inr he => apply hpost e he

/-- The lookup of a `name` that none of the `entries` has yields nothing. -/
theorem lookup_without (h : Without name entries) : entries.lookup name = none := by
  apply List.lookup_eq_none_iff.mpr
  intro e he
  apply bne_iff_ne.mpr (Ne.symm (h e he))

/-- The change by `f` of the entry with a `name` that none of the `entries` has changes nothing. -/
theorem filterMap_without (h : Without name entries) (f : Node → Option Node) :
  entries.filterMap (fun (n, x) => if n = name then (f x).map (n, ·) else some (n, x)) = entries
  := by
  induction entries with
  | nil => rfl
  | cons e entries ih =>
      have hhead : e.1 ≠ name := h e List.mem_cons_self
      have htail : Without name entries := fun e he => h e (List.mem_cons_of_mem _ he)
      simp only [List.filterMap_cons, ih htail, if_neg hhead]

/-- The change of what a path leads to below the entry `x` with the `name` is a change of that entry
in its directory. -/
theorem change_entry
    (hpre : Without name pre) (hpost : Without name post) (f : Node → Option Node) (q : List Name)
    (x : Node) :
  (Node.dir (pre ++ (name, x) :: post)).change f (name :: q)
    = some (.dir (pre ++ ((x.change f q).map (name, ·)).toList ++ post))
  := by
  rw [Node.change, List.filterMap_append, filterMap_without hpre fun x => x.change f q,
    List.append_assoc, List.filterMap_cons, filterMap_without hpost fun x => x.change f q]
  simp only [if_true]
  cases x.change f q with
  | none => rfl
  | some y => rfl

/-- In a directory whose names are different from each other, the entries before and behind the one
with the `name` have other names. -/
theorem without_of_nodup (h : ((pre ++ (name, x) :: post).map Prod.fst).Nodup) :
  Without name pre ∧ Without name post
  := by
  rw [List.map_append, List.map_cons, List.nodup_append] at h
  obtain ⟨_, hcons, hdisjoint⟩ := h
  constructor
  · intro e he
    apply hdisjoint _ (List.mem_map_of_mem he) _ List.mem_cons_self
  · rintro e he rfl
    apply (List.nodup_cons.mp hcons).1
    apply List.mem_map.mpr ⟨e, he, rfl⟩

/-- Whether there is a regular file or a directory at a path. -/
inductive Kind where
  | regular | directory
deriving DecidableEq

def Node.kind : Node → Kind
  | .file => .regular
  | .dir _ => .directory

/-- Whether a `path` in the file system `fs` leads to a file, to a directory, or to nothing. -/
def Node.kindAt (fs : Node) (path : List Name) : Option Kind := (fs.at path).map Node.kind

/-- A file system `C` with a hole at the path `p`: the path leads to what fills the hole, a change
below `p` is one of what fills the hole, and elsewhere `C` is always the same. -/
structure Place (p : List Name) (C : Node → Node) : Prop where
  at_eq : ∀ x, (C x).at p = some x
  update : ∀ f q x y, x.change f q = some y → (C x).update f (p ++ q) = C y
  outside : ∀ x y q, ¬ p <+: q → (C x).kindAt q = (C y).kindAt q

/-- The whole file system is a hole at the empty path. -/
theorem Place.root : Place [] id where
  at_eq _ := rfl
  update f q x y h := by
    rw [List.nil_append, id, Node.update, h]
    rfl
  outside x y q h := absurd (List.nil_prefix) h

/-- At and below a place `p` of `C` there is what is at and below the root of what fills the
hole. -/
theorem Place.kindAt_append (h : Place p C) (x : Node) (q : List Name) :
  (C x).kindAt (p ++ q) = x.kindAt q
  := by
  rw [Node.kindAt, Node.at_append, h.at_eq]
  rfl

/-- If two directories differ only in the entry with the `name`, then in the place `p` they are the
same at every path outside of that entry. -/
theorem Place.outside_entry
    (h : Place p C) {entries' : Entries}
    (hlookup : ∀ n, n ≠ name → entries.lookup n = entries'.lookup n)
    (hq : ¬ p ++ [name] <+: q) :
  (C (.dir entries)).kindAt q = (C (.dir entries')).kindAt q
  := by
  by_cases hp : p <+: q
  · obtain ⟨r, rfl⟩ := hp
    rw [h.kindAt_append, h.kindAt_append]
    cases r with
    | nil => rfl
    | cons n r =>
        have hne : n ≠ name := by
          rintro rfl
          apply hq
          exact ⟨r, by rw [List.append_assoc, List.singleton_append]⟩
        rw [Node.kindAt, Node.kindAt, Node.at, Node.at, hlookup n hne]
  · apply h.outside _ _ _ hp

/-- The entry with the `name` in the directory at the place `p` is a place as well. -/
theorem Place.entry
    (h : Place p C) (hpre : Without name pre) (hpost : Without name post) :
  Place (p ++ [name]) (fun x => C (.dir (pre ++ (name, x) :: post)))
  := by
  constructor
  · intro x
    rw [Node.at_append, h.at_eq, Option.bind_some, Node.at, lookup_entry hpre]
    rfl
  · intro f q x y hchange
    rw [List.append_assoc, List.singleton_append]
    apply h.update
    rw [change_entry hpre hpost, hchange]
    simp
  · intro x y q hq
    apply h.outside_entry _ hq
    intro n hne
    apply lookup_other hne

/-- The change that removes the entry with the `name` from the directory at the place `p` leaves the
entries before and behind it. -/
theorem Place.remove
    (h : Place p C) (hpre : Without name pre) (hpost : Without name post) (hx : f x = none) :
  (C (.dir (pre ++ (name, x) :: post))).update f (p ++ [name]) = C (.dir (pre ++ post))
  := by
  apply h.update
  rw [change_entry hpre hpost, Node.change, hx]
  simp

/-- If a path `p` leads to `y` in a tidy tree `x` at a place, then `y` is at a place as well, and is
tidy. -/
theorem Place.of_at
    (h : Place q C) (hx : Tidy x) (hat : x.at p = some y) :
  ∃ C', Place (q ++ p) C' ∧ C x = C' y ∧ Tidy y
  := by
  induction p generalizing q C x with
  | nil =>
      obtain rfl := Option.some.inj hat
      use C
      rw [List.append_nil]
      exact ⟨h, rfl, hx⟩
  | cons n p ih =>
      cases hx with
      | file => contradiction
      | @dir entries hnodup hname hsub =>
          obtain ⟨z, hlookup, hz⟩ := Option.bind_eq_some_iff.mp hat
          obtain ⟨pre, post, rfl, hpre⟩ := List.lookup_eq_some_iff.mp hlookup
          obtain ⟨hpre, hpost⟩ := without_of_nodup hnodup
          obtain ⟨C', hC', hz'⟩ := ih (h.entry hpre hpost)
            (hsub (n, z) (List.mem_append_right _ List.mem_cons_self)) hz
          use C'
          rw [List.append_assoc] at hC'
          exact ⟨hC', hz'⟩

/-! ### The loop -/

/-- The path of what lies below `path` along the names `q`, as the calls of `del_dir` print it. -/
def fullPath (path : Name) (q : List Name) : Name :=
  q.foldl (fun path dName => path ++ '/' :: dName) path

/-- The full paths of all that lies below `path` in the `node` are shorter than `DIR_LEN`. -/
def Short (path : Name) (node : Node) : Prop :=
  ∀ q, q ≠ [] → (node.at q).isSome → (fullPath path q).length < dirLen

/-- If the paths below a directory are short, the path of its entry with the `name` is, and so are
those below the entry. -/
theorem Short.entry
    (h : Short path (.dir (pre ++ (name, x) :: post))) (hpre : Without name pre) :
  (path ++ '/' :: name).length < dirLen ∧ Short (path ++ '/' :: name) x
  := by
  have hat : ∀ q, (Node.dir (pre ++ (name, x) :: post)).at (name :: q) = x.at q := by
    intro q
    rw [Node.at, lookup_entry hpre]
    rfl
  constructor
  · apply h [name] (List.cons_ne_nil _ _)
    rw [hat]
    rfl
  · intro q _ hq
    apply h (name :: q) (List.cons_ne_nil _ _)
    rw [hat]
    apply hq

theorem Short.file : Short path .file := by
  intro q hq hat
  cases q with
  | nil => contradiction
  | cons n q => contradiction

theorem Short.dir
    (h : ∀ e ∈ entries, (path ++ '/' :: e.1).length < dirLen ∧ Short (path ++ '/' :: e.1) e.2) :
  Short path (.dir entries)
  := by
  intro q hq hat
  cases q with
  | nil => contradiction
  | cons n q =>
      obtain ⟨node, hnode⟩ := Option.isSome_iff_exists.mp hat
      obtain ⟨x, hx, hbelow⟩ := Option.bind_eq_some_iff.mp hnode
      obtain ⟨pre, post, rfl, _⟩ := List.lookup_eq_some_iff.mp hx
      obtain ⟨hlen, hshort⟩ := h (n, x) (List.mem_append_right _ List.mem_cons_self)
      by_cases hq : q = []
      · rw [hq]
        apply hlen
      · apply hshort q hq
        rw [hbelow]
        rfl

/-- If the directory at the place `p` has no entry with the `name`, a change at that path changes
nothing. -/
theorem Place.update_without (h : Place p C) (hentries : Without name entries) :
  (C (.dir entries)).update f (p ++ [name]) = C (.dir entries)
  := by
  apply h.update
  rw [Node.change, filterMap_without hentries fun x => x.change f []]

/-- With `fuel` calls deep, `del_dir` empties the directory with the `entries` at the `path`, in
whatever file system it is at that place. -/
def Empties (fuel : Nat) (path : Name) (entries : Entries) : Prop :=
  ∀ C, Place (components path) C → delDirAt fuel (C (.dir entries)) path = some (C (.dir []))

/-- The loop body removes an entry from its directory: `remove` does if it is a file, and `rmdir` if
it is a directory, which is empty by then. -/
theorem delDirAt_entry {fuel : Nat}
    (h : Place (components path) C) (hname : IsName name) (hentries : Without name entries)
    (hdir : ∀ sub, x = .dir sub → Empties (fuel + 1) (path ++ '/' :: name) sub) :
  (delDirAt (fuel + 1) (C (.dir ((name, x) :: entries))) (path ++ '/' :: name)).map
      (Node.update removeEmpty (components (path ++ '/' :: name)))
    = some (C (.dir entries))
  := by
  have hentry := h.entry without_nil hentries
  cases x with
  | file =>
      have hat := hentry.at_eq .file
      rw [delDirAt, components_entry path hname]
      simp only [List.nil_append] at hat
      rw [hat, Option.map_some]
      have hremove := h.remove (f := removeFile) without_nil hentries (x := .file) rfl
      rw [List.nil_append] at hremove
      rw [hremove, List.nil_append, h.update_without hentries]
  | dir sub =>
      have hsub := hdir sub rfl _ (by rw [components_entry path hname]; apply hentry)
      rw [List.nil_append] at hsub
      rw [hsub, Option.map_some, components_entry path hname, List.nil_append]
      congr 1
      apply h.remove without_nil hentries rfl

theorem Short.first (h : Short path (.dir ((name, x) :: entries))) :
  (path ++ '/' :: name).length < dirLen ∧ Short (path ++ '/' :: name) x
  := Short.entry (show Short path (.dir ([] ++ (name, x) :: entries)) from h) without_nil

/-- In a tidy directory the first entry has a name that no other one has, and the entry and the
directory without it are tidy. -/
theorem Tidy.cons (h : Tidy (.dir ((name, x) :: entries))) :
  IsName name ∧ Without name entries ∧ Tidy x ∧ Tidy (.dir entries)
  := by
  cases h with
  | dir hnodup hname hsub =>
      obtain ⟨hfirst, hrest⟩ := List.nodup_cons.mp hnodup
      have hentries : Without name entries := by
        intro e he hne
        apply hfirst
        apply List.mem_map.mpr ⟨e, he, hne⟩
      refine ⟨hname _ List.mem_cons_self, hentries, hsub _ List.mem_cons_self, ?_⟩
      apply Tidy.dir hrest
      · intro e he
        apply hname e (List.mem_cons_of_mem _ he)
      · intro e he
        apply hsub e (List.mem_cons_of_mem _ he)

/-- If the paths below a directory are short, then so are those below the directory without its
first entry. -/
theorem Short.rest
    (h : Short path (.dir ((name, x) :: entries))) (hentries : Without name entries) :
  Short path (.dir entries)
  := by
  intro q hq hat
  apply h q hq
  cases q with
  | nil => contradiction
  | cons n q =>
      have hne : n ≠ name := by
        rintro rfl
        rw [Node.at, lookup_without hentries] at hat
        contradiction
      rw [Node.at, List.lookup_cons, beq_eq_false_iff_ne.mpr hne]
      apply hat

/-- The loop of `del_dir` empties a tidy directory whose paths are short, if the calls for its
directories empty those. -/
theorem delDirAt_dir {fuel : Nat}
    (hdir : Tidy (.dir entries)) (hshort : Short path (.dir entries))
    (hsub : ∀ name sub, (name, .dir sub) ∈ entries → (path ++ '/' :: name).length < dirLen →
      Short (path ++ '/' :: name) (.dir sub) → Empties fuel (path ++ '/' :: name) sub)
    (hfuel : entries ≠ [] → 0 < fuel) :
  Empties (fuel + 1) path entries
  := by
  intro C h
  rw [delDirAt, h.at_eq]
  simp only [List.foldlM_cons, List.foldlM_map, show isSpecialDir ['.'] = true from rfl,
    show isSpecialDir ['.', '.'] = true from rfl, if_true, Option.bind_eq_bind, Option.bind_some]
  -- On the entries that are left: the ones before have been removed.
  induction entries with
  | nil => rfl
  | cons e entries ih =>
      obtain ⟨name, x⟩ := e
      obtain ⟨hname, hentries, _, hrest⟩ := hdir.cons
      obtain ⟨hlen, hbelow⟩ := hshort.first
      obtain ⟨fuel, rfl⟩ := Nat.exists_eq_add_one.mpr (hfuel (List.cons_ne_nil _ _))
      have hcalls : ∀ sub, x = .dir sub → Empties (fuel + 1) (path ++ '/' :: name) sub := by
        rintro sub rfl
        apply hsub name sub List.mem_cons_self hlen hbelow
      rw [List.foldlM_cons, hname.2.2, if_neg Bool.false_ne_true, if_pos hlen,
        delDirAt_entry h hname hentries hcalls, Option.bind_eq_bind, Option.bind_some]
      apply ih hrest (hshort.rest hentries)
      · intro n sub hmem
        apply hsub n sub (List.mem_cons_of_mem _ hmem)
      · intro _
        apply Nat.succ_pos

/-- `del_dir` empties a directory.  The recursion goes down to paths that are longer and
longer, and these are shorter than `DIR_LEN`. -/
theorem delDirAt_empties
    (hnode : Tidy node) (hdir : node = .dir entries) (hshort : Short path node) {fuel : Nat}
    (hpos : 0 < fuel) (hfuel : dirLen ≤ fuel + path.length) :
  Empties fuel path entries
  := by
  induction hnode generalizing path entries fuel with
  | file => contradiction
  | @dir entries hnodup hname hsub ih =>
      obtain rfl := Node.dir.inj hdir
      obtain ⟨fuel, rfl⟩ := Nat.exists_eq_add_one.mpr hpos
      have hlength : ∀ name : Name, (path ++ '/' :: name).length < dirLen →
          0 < fuel ∧ dirLen ≤ fuel + (path ++ '/' :: name).length := by
        intro name hlen
        rw [List.length_append, List.length_cons] at hlen ⊢
        omega
      apply delDirAt_dir (Tidy.dir hnodup hname hsub) hshort
      · intro name sub hmem hlen hbelow
        obtain ⟨hpos, hfuel⟩ := hlength name hlen
        apply ih (name, .dir sub) hmem rfl hbelow hpos hfuel
      · intro hne
        obtain ⟨⟨name, x⟩, entries, rfl⟩ := List.exists_cons_of_ne_nil hne
        obtain ⟨hlen, _⟩ := hshort.first
        apply (hlength name hlen).1

/-! ### The whole file system -/

/-- A directory or file `node` that a path `p` leads to in the tidy file system `fs` is at a
place. -/
theorem exists_place (hfs : Tidy fs) (hat : fs.at p = some node) :
  ∃ C, Place p C ∧ fs = C node ∧ Tidy node
  := by
  obtain ⟨C, hC, hfs⟩ := Place.of_at Place.root hfs hat
  exact ⟨C, hC, hfs⟩

/-- A file that a path `p` leads to is an entry of a directory, which is at a place `q`. -/
theorem exists_place_file
    (hfs : Tidy (.dir entries)) (hat : (Node.dir entries).at p = some .file) :
  ∃ q name C pre post, p = q ++ [name] ∧ Place q C ∧ Without name pre ∧ Without name post
    ∧ Node.dir entries = C (.dir (pre ++ (name, .file) :: post))
  := by
  rcases List.eq_nil_or_concat p with rfl | ⟨q, name, rfl⟩
  · cases Option.some.inj hat
  · rw [List.concat_eq_append, Node.at_append] at hat
    obtain ⟨node, hnode, hlookup⟩ := Option.bind_eq_some_iff.mp hat
    obtain ⟨C, hC, hfs, htidy⟩ := exists_place hfs hnode
    cases htidy with
    | file => contradiction
    | dir hnodup hname hsub =>
        obtain ⟨x, hx, hfile⟩ := Option.bind_eq_some_iff.mp hlookup
        obtain rfl := Option.some.inj hfile
        obtain ⟨pre, post, rfl, _⟩ := List.lookup_eq_some_iff.mp hx
        obtain ⟨hpre, hpost⟩ := without_of_nodup hnodup
        exact ⟨q, name, C, pre, post, List.concat_eq_append, hC, hpre, hpost, hfs⟩

/-- The loop of `del_dir` leaves nothing of the entries of a directory. -/
theorem delEntries_eq_nil : ∀ entries, delEntries entries = []
  | [] => rfl
  | (_, .file) :: rest => by
      rw [delEntries, delDir]
      apply delEntries_eq_nil rest
  | (_, .dir sub) :: rest => by
      rw [delEntries, delDir, delEntries_eq_nil sub]
      apply delEntries_eq_nil rest

/-- The deletion of a directory at the place `p` is its change into an empty one. -/
theorem Place.update_delDir (h : Place p C) : (C (.dir entries)).update delDir p = C (.dir []) := by
  rw [← List.append_nil p]
  apply h.update
  rw [Node.change, delDir, delEntries_eq_nil]

/-- `del_dir`, with its recursion by paths, does what the recursion by the tree does to what the
path leads to. -/
theorem delDirAt_eq
    (hfs : Tidy (.dir entries)) (hat : (Node.dir entries).at (components path) = some node)
    (hshort : Short path node) {fuel : Nat} (hfuel : dirLen ≤ fuel) :
  delDirAt fuel (.dir entries) path
    = some ((Node.dir entries).update delDir (components path))
  := by
  have hpos : 0 < fuel := Nat.lt_of_lt_of_le (by decide) hfuel
  cases node with
  | file =>
      obtain ⟨fuel, rfl⟩ := Nat.exists_eq_add_one.mpr hpos
      obtain ⟨q, name, C, pre, post, hpath, hC, hpre, hpost, hentries⟩ :=
        exists_place_file hfs hat
      rw [delDirAt, hat, hpath, hentries]
      simp only
      rw [hC.remove hpre hpost (show delDir .file = none from rfl),
        hC.remove hpre hpost (show removeFile .file = none from rfl)]
  | dir sub =>
      obtain ⟨C, hC, hentries, hsub⟩ := exists_place hfs hat
      rw [hentries, hC.update_delDir]
      apply delDirAt_empties hsub rfl hshort hpos (Nat.le_add_right_of_le hfuel) C hC

/-- What the deletion of the `node` at the path `p` leaves of `fs` in `fs'`: nothing below `p`, nor
at `p` if that is a file, and elsewhere what has been there. -/
structure Deleted (fs fs' : Node) (p : List Name) (node : Node) : Prop where
  self : fs'.kindAt p = match node with
    | .file => none
    | .dir _ => some .directory
  below : ∀ q, q ≠ [] → fs'.kindAt (p ++ q) = none
  outside : ∀ q, ¬ p <+: q → fs'.kindAt q = fs.kindAt q

theorem update_delDir_deleted
    (hfs : Tidy (.dir entries)) (hat : (Node.dir entries).at p = some node) :
  Deleted (.dir entries) ((Node.dir entries).update delDir p) p node
  := by
  cases node with
  | file =>
      obtain ⟨q, name, C, pre, post, rfl, hC, hpre, hpost, hentries⟩ := exists_place_file hfs hat
      rw [hentries, hC.remove hpre hpost rfl]
      have hnone : ∀ r, (C (.dir (pre ++ post))).kindAt (q ++ [name] ++ r) = none := by
        intro r
        rw [List.append_assoc, hC.kindAt_append, List.singleton_append, Node.kindAt, Node.at,
          lookup_without (hpre.append hpost)]
        rfl
      constructor
      · rw [← List.append_nil (q ++ [name]), hnone]
      · intro r _
        apply hnone
      · intro r hr
        apply hC.outside_entry _ hr
        intro n hne
        rw [List.lookup_append, List.lookup_append, List.lookup_cons,
          beq_eq_false_iff_ne.mpr hne]
  | dir sub =>
      obtain ⟨C, hC, hentries, _⟩ := exists_place hfs hat
      rw [hentries, hC.update_delDir]
      constructor
      · rw [← List.append_nil p, hC.kindAt_append]
        rfl
      · intro q hq
        rw [hC.kindAt_append]
        cases q with
        | nil => contradiction
        | cons n q => rfl
      · intro q hq
        apply hC.outside _ _ _ hq

/-- `del_dir` of a file or directory in any file system, when the full paths below it are shorter
than `DIR_LEN`: the recursion ends, nothing is left strictly below the path, a file is removed, and
nothing else has changed. -/
theorem del_dir_spec
    (hfs : Tidy (.dir entries)) (hat : (Node.dir entries).at (components path) = some node)
    (hshort : Short path node) :
  ∃ fs', (∀ fuel, dirLen ≤ fuel → delDirAt fuel (.dir entries) path = some fs')
    ∧ Deleted (.dir entries) fs' (components path) node
  := by
  use (Node.dir entries).update delDir (components path)
  constructor
  · intro fuel hfuel
    apply delDirAt_eq hfs hat hshort hfuel
  · apply update_delDir_deleted hfs hat

/-- A directory with a directory, which has a file in it, and a file. -/
def dayDir : Node :=
  .dir [(['1', '0'], .dir [(['a'], .file)]), (['b'], .file)]

/-- The directory `dayDir` is deleted, in the sense of `Deleted`, and the file beside it is not
touched. -/
theorem dayDir_deleted :
  ∃ fs', (∀ fuel, dirLen ≤ fuel →
      delDirAt fuel (.dir [(['d'], dayDir), (['e'], .file)]) ['/', 'd'] = some fs')
    ∧ Deleted (.dir [(['d'], dayDir), (['e'], .file)]) fs' [['d']] dayDir
  := by
  have hpath : components ['/', 'd'] = [['d']] := by decide
  have hhour : Tidy (.dir [(['a'], .file)]) := by
    apply Tidy.dir (by decide)
    · simp [IsName, isSpecialDir]
    · simp [Tidy.file]
  have hday : Tidy dayDir := by
    apply Tidy.dir (by decide)
    · simp [IsName, isSpecialDir]
    · simp [Tidy.file, hhour]
  have hfs : Tidy (.dir [(['d'], dayDir), (['e'], .file)]) := by
    apply Tidy.dir
    · simp
    · simp [IsName, isSpecialDir]
    · simp [Tidy.file, hday]
  have hshort : Short ['/', 'd'] dayDir := by
    apply Short.dir
    simp only [List.forall_mem_cons, List.not_mem_nil, false_implies, implies_true, and_true]
    refine ⟨⟨by decide, Short.dir ?_⟩, by decide, Short.file⟩
    simp only [List.forall_mem_cons, List.not_mem_nil, false_implies, implies_true, and_true]
    exact ⟨by decide, Short.file⟩
  have hat : (Node.dir [(['d'], dayDir), (['e'], .file)]).at (components ['/', 'd'])
      = some dayDir := by
    rw [hpath]
    rfl
  have h := del_dir_spec hfs hat hshort
  rw [hpath] at h
  apply h

/-- What a path `p` leads to among the `entries` is what it leads to from the directory with the
entries. -/
theorem lookup_eq_at (p : List Name) (hp : p ≠ []) (entries : Entries) :
  lookup p entries = (Node.dir entries).at p
  := by
  induction p generalizing entries with
  | nil => contradiction
  | cons name p ih =>
      cases p with
      | nil =>
          rw [lookup, Node.at]
          cases entries.lookup name with
          | none => rfl
          | some node => rfl
      | cons name' p =>
          rw [lookup, Node.at]
          · cases entries.lookup name with
            | none => rfl
            | some node =>
                cases node with
                | file => rfl
                | dir sub => apply ih (List.cons_ne_nil _ _)
          · intro h
            cases h

/-- The change of what a path `p` below a directory leads to is the directory with the modified
`entries`. -/
theorem change_dir (f : Node → Option Node) (p : List Name) (hp : p ≠ []) (entries : Entries) :
  (Node.dir entries).change f p = some (.dir (modify f p entries))
  := by
  induction p generalizing entries with
  | nil => contradiction
  | cons name p ih =>
      cases p with
      | nil => rfl
      | cons name' p =>
          rw [Node.change, modify, ← List.filterMap_eq_map]
          · congr 3
            funext ⟨n, node⟩
            cases node with
            | file =>
                simp only [Node.change, Option.map_some, Function.comp_apply, ite_self]
            | dir sub =>
                simp only [ih (List.cons_ne_nil _ _), Option.map_some, Function.comp_apply]
                split
                · rfl
                · rfl
          · intro h
            cases h

/-- On the card, `delDirAt`, which walks the paths, does what `delDir` does in the model in which
the space is prepared. -/
theorem delDirAt_card
    (hfs : Tidy (C (.dir entries))) (hC : Place (components sdPath) C)
    (hcard : cardPath path = some p) (hpath : components path = components sdPath ++ p)
    (hlookup : lookup p entries = some node) (hshort : Short path node)
    {fuel : Nat} (hfuel : dirLen ≤ fuel) :
  delDirAt fuel (C (.dir entries)) path
    = (delPath entries path).map fun card => C (.dir card)
  := by
  have hp : p ≠ [] := by
    rintro rfl
    contradiction
  have hat : (C (.dir entries)).at (components path) = some node := by
    rw [hpath, Node.at_append, hC.at_eq, Option.bind_some, ← lookup_eq_at p hp, hlookup]
  have hdel : delPath entries path = some (modify delDir p entries) := by
    rw [delPath, hcard]
    simp only [Option.bind_eq_bind, Option.bind_some, hlookup, Option.pure_def]
  have hupdate := hC.update delDir p _ _ (change_dir delDir p hp entries)
  rw [hdel, Option.map_some, ← hupdate, ← hpath]
  cases hroot : C (.dir entries) with
  | file =>
      have hsd := hC.at_eq (.dir entries)
      rw [hroot] at hsd
      contradiction
  | dir root =>
      rw [hroot] at hfs hat
      apply delDirAt_eq hfs hat hshort hfuel

end AviSave.Card
