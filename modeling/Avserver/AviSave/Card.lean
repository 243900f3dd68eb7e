import Avserver.Msg.CString

/-!
# The files on the SD card

The recorder keeps its files in a directory for each day, `20YYMMDD`, with a directory for each
hour in it.  When a file is to be recorded and the card is short of space, `prepare_free_space`
looks for the oldest directory and deletes it, again and again: this is `sd_file.c`.

The search demands of the name of a day that its first character is `'2'` and, by a slip, that
the same character is `'0'`.  So it finds no directory on any card, and nothing is ever deleted.
-/

namespace AviSave.Card

/-- A name, a path, or the string in a buffer, as the list of its characters up to the end. -/
abbrev Name := List Char

/-- A file, or a directory with its `entries` in the order of `readdir`, without `.` and `..`. -/
inductive Node where
  | file
  | dir (entries : List (Name × Node))

/-- The entries of a directory, each with its name.  Those of `SD_PATH` are the card. -/
abbrev Entries := List (Name × Node)

/-- `SD_PATH` -/
def sdPath : Name := "/mnt/mmc0".toList

/-- What the functions find out about the card from outside of the tree of its entries. -/
structure Env where
  /-- `IS_DIR` of a name of an entry, which `lstat` looks up in the working directory -/
  isDir : Name → Bool
  /-- `GetCardfreeSpace`, in kbytes -/
  free : Entries → Int

/-! ### Paths -/

/-- The names of which a `path` is made up, between its slashes. -/
def components (path : Name) : List Name := (path.splitOn '/').filter (· ≠ [])

/-- The names that lead to a path from the root of the card; none, if it is not a path below
`SD_PATH`. -/
def cardPath (path : Name) : Option (List Name) :=
  if sdPath.isPrefixOf path then some ((components path).drop (components sdPath).length)
  else none

/-- The file or directory that a path, as the list of its names, leads to from a directory. -/
def lookup : List Name → Entries → Option Node
  | [], _ => none
  | [name], entries => entries.lookup name
  | name :: path, entries =>
      match entries.lookup name with
      | some (.dir sub) => lookup path sub
      | _ => none

/-- `access(path, F_OK) == 0` -/
def access (card : Entries) (path : Name) : Bool :=
  match cardPath path with
  | some names => (lookup names card).isSome
  | none => false

/-! ### Deleting a directory -/

mutual

/-- `del_dir` on one file or directory: what is left of it, or `none` if it is removed. -/
def delDir : Node → Option Node
  | .file => none
  | .dir entries => some (.dir (delEntries entries))

/-- The loop of `del_dir` over the entries of a directory: `rmdir` removes the directories that are
empty by then. -/
def delEntries : Entries → Entries
  | [] => []
  | (name, node) :: rest =>
      match delDir node with
      | none => delEntries rest
      | some (.dir []) => delEntries rest
      | some node => (name, node) :: delEntries rest

end

/-- The change by `f` of what a path leads to; if `f` yields `none`, the entry is removed. -/
def modify (f : Node → Option Node) : List Name → Entries → Entries
  | [], entries => entries
  | [name], entries =>
      entries.filterMap fun (n, node) =>
        if n = name then (f node).map (n, ·) else some (n, node)
  | name :: path, entries =>
      entries.map fun (n, node) =>
        match node with
        | .dir sub => if n = name then (n, .dir (modify f path sub)) else (n, node)
        | .file => (n, node)

/-- `del_dir` of a path; none, if it leads to nothing on the card: then `readdir` is given a null
pointer. -/
def delPath (card : Entries) (path : Name) : Option Entries := do
  let names ← cardPath path
  let _ ← lookup names card
  pure (modify delDir names card)

/-! ### The search for the oldest directory -/

/-- `Is_gt`, of the strings `dir₁` and `dir₂`: it is 1 if the number of the first one is smaller, in
the year, the month or the day, and otherwise 0. -/
def isGt (dir₁ dir₂ : Name) : Int :=
  let d₁ := Msg.atoi dir₁
  let d₂ := Msg.atoi dir₂
  if d₁.tdiv 10000 < d₂.tdiv 10000 then 1
  else if d₁.tdiv 100 < d₂.tdiv 100 then 1
  else if d₁ < d₂ then 1
  else 0

/-- The local variables of `find_oldest_dir_from_sdroot`: whether something is found, whether none
has been seen yet, and the name so far. -/
structure Search where
  fnd : Int
  firstDir : Bool
  dir : Name
deriving DecidableEq

/-- The first character of the string `name`, which is the `'\0'` at its end if it is empty. -/
def firstChar (name : Name) : Char := name.headD Msg.nul

/-- The body of the loop of `find_oldest_dir_from_sdroot`, for the entry with the name `dName`. -/
def searchEntry (env : Env) (s : Search) (dName : Name) : Search :=
  if ¬ env.isDir dName then s
  else if firstChar dName ≠ '2' ∨ firstChar dName ≠ '0' then s
  else if s.firstDir then { s with firstDir := false, dir := dName }
  else { s with dir := if isGt s.dir dName = 0 then dName else s.dir, fnd := 1 }

/-- The path `%s/%s/%02d` that is printed for `SD_PATH`, the name `dir` of a day and the `hour`. -/
def hourPath (dir : Name) (hour : Nat) : Name :=
  sdPath ++ '/' :: dir ++ '/' :: Nat.digitChar (hour / 10) :: [Nat.digitChar (hour % 10)]

/-- `find_oldest_dir_from_sdroot` on a `card`: its result, and the name that it leaves in the buffer
for the directory. -/
def findOldestDirFromSdroot (env : Env) (card : Entries) : Int × Name :=
  let names := ".".toList :: "..".toList :: card.map Prod.fst
  let s := names.foldl (searchEntry env) { fnd := 0, firstDir := true, dir := [] }
  if s.fnd = 1 then
    match (List.range 24).find? fun hour => access card (hourPath s.dir hour) with
    | some hour => (if hour = 23 then 3 else 2, hourPath s.dir hour)
    | none => (1, s.dir)
  else (s.fnd, s.dir)

/-- `prepare_free_space`, with a bound on the number of passes of its loop: the card behind it
and its result, if it has returned by then. -/
def prepareFreeSpace (env : Env) (space : Nat) : Nat → Entries → Option (Entries × Int)
  | 0, _ => none
  | fuel + 1, card =>
      if env.free card < space then
        let (ret, oldDir) := findOldestDirFromSdroot env card
        if ret ≠ 0 then (delPath card oldDir).bind (prepareFreeSpace env space fuel)
        else some (card, -1)
      else some (card, 0)

/-! ### Recorded files -/

/-- The `name` is that of the directory of a day, `20YYMMDD`: eight digits that begin with `20`. -/
def isDay (name : Name) : Bool :=
  name.length = 8 && name.all Char.isDigit && "20".toList.isPrefixOf name

/-- The `name` is that of the directory of an hour: two digits. -/
def isHour (name : Name) : Bool := name.length = 2 && name.all Char.isDigit

/-- The entry is a file, and no directory. -/
def isFile : Name × Node → Bool
  | (_, .file) => true
  | (_, .dir _) => false

/-- There is a file on the `card`, in the directory of an hour of some day. -/
def hasRecording (card : Entries) : Bool :=
  card.any fun
    | (day, .dir hours) => isDay day && hours.any fun
        | (hour, .dir files) => isHour hour && files.any isFile
        | (_, .file) => false
    | (_, .file) => false

/-! ### What the search finds -/

variable (env : Env) (card : Entries) (space : Nat)

/-- No character is `'2'` and `'0'` at once, so `searchEntry` passes over every entry `dName`. -/
theorem searchEntry_eq (s : Search) (dName : Name) : searchEntry env s dName = s := by
  have hchar : firstChar dName ≠ '2' ∨ firstChar dName ≠ '0' := by
    by_cases h : firstChar dName = '2'
    · right
      rw [h]
      decide
    · left
      apply h
  rw [searchEntry, if_pos hchar, ite_self]

/-- The search finds no directory on any `card`: it yields 0, and leaves the buffer empty. -/
theorem findOldestDirFromSdroot_eq : findOldestDirFromSdroot env card = (0, []) := by
  have hfold : ∀ (names : List Name) (s : Search), names.foldl (searchEntry env) s = s := by
    intro names s
    induction names with
    | nil => rfl
    | cons name names ih => rw [List.foldl_cons, searchEntry_eq, ih]
  simp only [findOldestDirFromSdroot, hfold]
  rfl

/-- The directories of days on the `card`, each with its name and its entries. -/
def dayDirs (card : Entries) : List (Name × Entries) :=
  card.filterMap fun
    | (day, .dir hours) => if isDay day then some (day, hours) else none
    | (_, .file) => none

/-- Among the entries of a day there is a directory for the `hour`, named by its two digits. -/
def HasHour (hours : Entries) (hour : Nat) : Prop :=
  hour < 24 ∧ ∃ files, ([Nat.digitChar (hour / 10), Nat.digitChar (hour % 10)], .dir files) ∈ hours

/-- What the search is to do: it finds something if there is the directory of a day on the `card`;
it finds the smallest hour of the smallest day; and no other entry makes a difference. -/
structure FindsOldest (env : Env) (card : Entries) : Prop where
  found : dayDirs card ≠ [] → (findOldestDirFromSdroot env card).1 ≠ 0
  hour : ∀ day hours hour, (day, hours) ∈ dayDirs card →
    (∀ d ∈ dayDirs card, Msg.atoi day ≤ Msg.atoi d.1) →
    HasHour hours hour → (∀ h, HasHour hours h → hour ≤ h) →
    findOldestDirFromSdroot env card = (if hour = 23 then 3 else 2, hourPath day hour)
  others : ∀ card', dayDirs card' = dayDirs card →
    findOldestDirFromSdroot env card' = findOldestDirFromSdroot env card

/-- For every `card`, with its entries in any order, the search does what `FindsOldest` asks exactly
if there is no directory of a day. -/
theorem findsOldest_iff : FindsOldest env card ↔ dayDirs card = [] := by
  constructor
  · intro h
    by_contra hdays
    apply h.found hdays
    rw [findOldestDirFromSdroot_eq]
  · intro hnone
    constructor
    · intro hdays
      apply absurd hnone hdays
    · intro day hours hour hday
      rw [hnone] at hday
      contradiction
    · intro card' _
      rw [findOldestDirFromSdroot_eq, findOldestDirFromSdroot_eq]

/-- `prepare_free_space` returns in its first pass, with `-1` if there is less free than `space`,
and it deletes nothing from the `card`. -/
theorem prepareFreeSpace_eq (fuel : Nat) :
  prepareFreeSpace env space (fuel + 1) card
    = some (card, if env.free card < space then -1 else 0)
  := by
  rw [prepareFreeSpace, findOldestDirFromSdroot_eq]
  split
  · rfl
  · rfl

/-- `prepare_free_space` returns, and it returns 0 only with enough space, and -1 only when no
recorded file is left, exactly when there is enough space from the start, or no recorded
file. -/
theorem prepare_free_space_iff :
  (∃ fuel card' ret, prepareFreeSpace env space fuel card = some (card', ret)
      ∧ (ret = 0 → space ≤ env.free card') ∧ (ret = -1 → hasRecording card' = false))
    ↔ space ≤ env.free card ∨ hasRecording card = false
  := by
  constructor
  · rintro ⟨fuel, card', ret, hret, _, hnone⟩
    cases fuel with
    | zero => contradiction
    | succ fuel =>
        rw [prepareFreeSpace_eq] at hret
        obtain ⟨rfl, rfl⟩ := Prod.mk.inj (Option.some.inj hret)
        by_cases hfree : env.free card < space
        · right
          apply hnone (if_pos hfree)
        · left
          apply Int.not_lt.mp hfree
  · intro h
    refine ⟨1, card, _, prepareFreeSpace_eq env card space 0, ?_⟩
    split
    · next hfree =>
        refine ⟨fun hret => absurd hret (by decide), fun _ => ?_⟩
        apply h.resolve_left
        apply Int.not_le.mpr hfree
    · next hfree =>
        exact ⟨fun _ => Int.not_lt.mp hfree, fun hret => absurd hret (by decide)⟩

/-- A card with one recorded file, in the directory of an hour of a day, which leaves no space. -/
def oneRecording : Entries :=
  [("20150711".toList, .dir [("10".toList, .dir [("20150711100000.avi".toList, .file)])])]

/-- The names of directories are recognised by `isDir`, and the card is full as long as there is a
recording. -/
def fullCard : Env where
  isDir := fun _ => true
  free := fun card => if hasRecording card then 0 else 1000

/-- The card `oneRecording` is left as it is by `prepareFreeSpace`, though its file could be deleted
to make space. -/
theorem space_not_prepared :
  hasRecording oneRecording = true ∧ prepareFreeSpace fullCard 100 1 oneRecording
      = some (oneRecording, -1)
    ∧ fullCard.free (delEntries oneRecording) = 1000
  := by
  have hrecording : hasRecording oneRecording = true := by decide
  refine ⟨hrecording, ?_, ?_⟩
  · rw [prepareFreeSpace_eq]
    simp [fullCard, hrecording]
  · simp [oneRecording, delEntries, delDir, fullCard, hasRecording]

/-- On the card `oneRecording`, which has a day with an hour, the search finds nothing. -/
theorem oneRecording_not_found :
  dayDirs oneRecording = [("20150711".toList, [("10".toList,
      .dir [("20150711100000.avi".toList, .file)])])]
    ∧ HasHour [("10".toList, .dir [("20150711100000.avi".toList, .file)])] 10
    ∧ findOldestDirFromSdroot fullCard oneRecording = (0, [])
  := by
  have hday : isDay "20150711".toList = true := by decide
  refine ⟨?_, ⟨by decide, _, List.mem_singleton_self _⟩, findOldestDirFromSdroot_eq _ _⟩
  rw [dayDirs, oneRecording, List.filterMap_cons]
  simp only [hday, if_true, List.filterMap_nil]

end AviSave.Card
