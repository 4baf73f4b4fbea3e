import ClassDiagram.Files

/-!
# Files written and read back

Which file a path leads to depends on the folders alone (`FileSystem.LeadsTo`), and a write makes
no folders. So every path that leads to a file, or to where one can be made, leads there after any
write (`FileSystem.LeadsTo.put`). What is written is therefore read back
(`FileSystem.LeadsTo.read_put`), and no write makes another one impossible.
-/

namespace ClassDiagram

namespace Place

/-- A place after bytes were put into a file, which is made if there was none. -/
def filled (names : List String) (content : List UInt8) : Place → Place
  | folder inner => folder inner
  | file other bytes => file other (if other = names then content else bytes)
  | vacant other => if other = names then file other content else vacant other

/-- The names of the file at the place, or of the one that can be made there. -/
def file? : Place → Option (List String)
  | folder _ => none
  | file names _ | vacant names => some names

theorem file?_filled (names : List String) (content : List UInt8) (place : Place) :
    (place.filled names content).file? = place.file? := by
  cases place with
  | folder inner => rfl
  | file other bytes => rfl
  | vacant other =>
      rw [filled]
      split <;> rfl

end Place

namespace FileSystem

variable {files after : FileSystem} {path : String} {content : List UInt8} {names : List String}

/-! ## What a put leaves behind -/

theorem lookup_filter_of_ne {other : List String} (h : other ≠ names)
    (entries : List (List String × List UInt8)) :
    (entries.filter fun file => file.1 ≠ names).lookup other = entries.lookup other := by
  induction entries with
  | nil => rfl
  | cons entry rest ih =>
      obtain ⟨key, bytes⟩ := entry
      by_cases hkey : key = names
      · have hother : (other == key) = false := by rw [hkey]; exact beq_false_of_ne h
        rw [List.filter_cons_of_neg (by simpa using hkey), ih, List.lookup_cons, hother]
      · rw [List.filter_cons_of_pos (by simpa using hkey), List.lookup_cons, List.lookup_cons, ih]

/-- The bytes are in the file that they are put into, and nothing else changes. -/
theorem lookup_put (files : FileSystem) (names other : List String) (content : List UInt8) :
    (files.put names content).files.lookup other
      = if other = names then some content else files.files.lookup other := by
  rw [put, List.lookup_cons]
  by_cases hother : other = names
  · rw [if_pos hother, hother, beq_self_eq_true]
  · rw [if_neg hother, beq_false_of_ne hother]
    exact lookup_filter_of_ne hother files.files

theorem step_put (files : FileSystem) (names : List String) (content : List UInt8)
    (folder : List String) (name : String) :
    (files.put names content).step folder name
      = (files.step folder name).map (Place.filled names content) := by
  have hfolders : (files.put names content).folders = files.folders := rfl
  unfold step
  split
  · rfl
  split
  · rfl
  split
  · rfl
  dsimp only
  rw [hfolders, lookup_put]
  split
  · rfl
  by_cases hnames : folder ++ [name] = names
  · rw [if_pos hnames]
    cases files.files.lookup (folder ++ [name]) with
    | none => simp [Except.map, Place.filled, hnames]
    | some bytes => simp [Except.map, Place.filled, hnames]
  · rw [if_neg hnames]
    cases files.files.lookup (folder ++ [name]) with
    | none => simp [Except.map, Place.filled, hnames]
    | some bytes => simp [Except.map, Place.filled, hnames]

/-- Folders that could be entered can be entered still. -/
theorem enter_put {folder inner : List String} {way : List String}
    (h : files.enter folder way = .ok inner) (names : List String) (content : List UInt8) :
    (files.put names content).enter folder way = .ok inner := by
  induction way generalizing folder with
  | nil => exact h
  | cons name rest ih =>
      rw [enter] at h ⊢
      rw [step_put]
      cases hstep : files.step folder name with
      | error fault => rw [hstep] at h; exact absurd h (by simp)
      | ok place =>
          rw [hstep] at h
          cases place with
          | folder next => exact ih h
          | file other bytes => exact absurd h (by simp)
          | vacant other => exact absurd h (by simp)

theorem approach_put {folder : List String} {way : Path}
    (h : files.approach path = .ok (folder, way)) (names : List String) (content : List UInt8) :
    (files.put names content).approach path = .ok (folder, way) := by
  have hhere : (files.put names content).here = files.here := rfl
  unfold approach at h ⊢
  split at h
  · exact absurd h (by simp)
  split at h
  · exact absurd h (by simp)
  split at h
  · exact absurd h (by simp)
  next hnul hlong hempty =>
    rw [if_neg hnul, if_neg hlong, if_neg hempty]
    dsimp only at h ⊢
    rw [hhere]
    split at h
    next inner henter =>
      rw [enter_put henter]
      exact h
    next => exact absurd h (by simp)

/-! ## Where a path leads -/

/-- The path leads to the file of these names, or to where it can be made. -/
def LeadsTo (files : FileSystem) (path : String) (names : List String) : Prop :=
  ∃ folder way place, files.approach path = .ok (folder, way) ∧ way.asFolder = false
    ∧ files.step folder (way.names.getLast?.getD ".") = .ok place ∧ place.file? = some names

/-- A path leads where it led before something was written. -/
theorem LeadsTo.put (h : files.LeadsTo path names) (others : List String)
    (content : List UInt8) : (files.put others content).LeadsTo path names := by
  obtain ⟨folder, way, place, happroach, hfile, hstep, hnames⟩ := h
  refine ⟨folder, way, place.filled others content, approach_put happroach _ _, hfile, ?_, ?_⟩
  · rw [step_put, hstep]
    rfl
  · rw [Place.file?_filled, hnames]

/-- A write is possible where a path leads to a file, and puts the bytes there. -/
theorem write_eq_ok_iff :
    files.write path content = .ok after
      ↔ ∃ names, files.LeadsTo path names ∧ after = files.put names content := by
  constructor
  · intro h
    unfold write at h
    split at h
    · exact absurd h (by simp)
    next folder way happroach =>
      split at h
      · exact absurd h (by simp)
      next hfile =>
        have hasFolder : way.asFolder = false := by simpa using hfile
        split at h
        next names bytes hstep =>
          exact ⟨names, ⟨folder, way, _, happroach, hasFolder, hstep, rfl⟩, (Except.ok.inj h).symm⟩
        next names hstep =>
          exact ⟨names, ⟨folder, way, _, happroach, hasFolder, hstep, rfl⟩, (Except.ok.inj h).symm⟩
        · exact absurd h (by simp)
        · exact absurd h (by simp)
  · rintro ⟨names, ⟨folder, way, place, happroach, hasFolder, hstep, hnames⟩, rfl⟩
    rw [write, happroach]
    dsimp only
    rw [hasFolder, hstep]
    cases place with
    | folder inner => exact absurd hnames (by simp [Place.file?])
    | file other bytes =>
        obtain rfl : other = names := Option.some.inj hnames
        rfl
    | vacant other =>
        obtain rfl : other = names := Option.some.inj hnames
        rfl

/-- A step that leads to a file finds what the file holds. -/
theorem lookup_of_step {folder : List String} {name : String} {place : Place}
    (h : files.step folder name = .ok place) (hnames : place.file? = some names) :
    place = match files.files.lookup names with
      | some bytes => .file names bytes
      | none => .vacant names := by
  unfold step at h
  split at h
  · obtain rfl := Except.ok.inj h
    exact absurd hnames (by simp [Place.file?])
  split at h
  · obtain rfl := Except.ok.inj h
    exact absurd hnames (by simp [Place.file?])
  split at h
  · exact absurd h (by simp)
  dsimp only at h
  split at h
  · obtain rfl := Except.ok.inj h
    exact absurd hnames (by simp [Place.file?])
  split at h
  next bytes hlookup =>
    obtain rfl := Except.ok.inj h
    obtain rfl := Option.some.inj hnames
    rw [hlookup]
  next hlookup =>
    obtain rfl := Except.ok.inj h
    obtain rfl := Option.some.inj hnames
    rw [hlookup]

theorem LeadsTo.read (h : files.LeadsTo path names)
    (hcontent : files.files.lookup names = some content) : files.read path = .ok content := by
  obtain ⟨folder, way, place, happroach, hasFolder, hstep, hnames⟩ := h
  have hplace : place = .file names content := by
    rw [lookup_of_step hstep hnames, hcontent]
  rw [FileSystem.read, open?, happroach]
  dsimp only
  rw [hstep, hplace]
  dsimp only
  rw [hasFolder]
  rfl

/-- **What is written is read again**, also after the same bytes were written somewhere else. -/
theorem LeadsTo.read_put (h : files.LeadsTo path names) (content : List UInt8) :
    (files.put names content).read path = .ok content :=
  (h.put names content).read (by rw [lookup_put, if_pos rfl])

theorem LeadsTo.read_put_put (h : files.LeadsTo path names) (others : List String)
    (content : List UInt8) :
    ((files.put names content).put others content).read path = .ok content := by
  refine ((h.put names content).put others content).read ?_
  rw [lookup_put, lookup_put, if_pos rfl, ite_self]

/-! ## Files that may be written -/

/-- Whatever is written to the path gets there. -/
def Writable (files : FileSystem) (path : String) : Prop :=
  ∀ content, ∃ after, files.write path content = .ok after

theorem writable_iff : files.Writable path ↔ ∃ names, files.LeadsTo path names := by
  constructor
  · intro h
    obtain ⟨after, hafter⟩ := h []
    obtain ⟨names, hnames, -⟩ := write_eq_ok_iff.1 hafter
    exact ⟨names, hnames⟩
  · rintro ⟨names, hnames⟩ content
    exact ⟨_, write_eq_ok_iff.2 ⟨names, hnames, rfl⟩⟩

/-- The file system after an attempt to write to a path, if one is given. A failed attempt changes
nothing. -/
def written (files : FileSystem) (path : Option String) (content : List UInt8) : FileSystem :=
  match path with
  | none => files
  | some path =>
    match files.write path content with
    | .ok after => after
    | .error _ => files

/-- An attempt to write leaves everything as it was, or puts the bytes where the path leads. -/
theorem written_cases (files : FileSystem) (path : Option String) (content : List UInt8) :
    files.written path content = files
      ∨ ∃ names, files.written path content = files.put names content := by
  cases path with
  | none => exact .inl rfl
  | some path =>
      rw [written]
      cases hwrite : files.write path content with
      | error fault => exact .inl rfl
      | ok after =>
          obtain ⟨names, -, rfl⟩ := write_eq_ok_iff.1 hwrite
          exact .inr ⟨names, rfl⟩

theorem written_of_leadsTo (h : files.LeadsTo path names) (content : List UInt8) :
    files.written (some path) content = files.put names content := by
  rw [written, write_eq_ok_iff.2 ⟨names, h, rfl⟩]

/-- What could be written can be written after any attempt to write something else. -/
theorem LeadsTo.written (h : files.LeadsTo path names) (other : Option String)
    (content : List UInt8) : (files.written other content).LeadsTo path names := by
  rcases files.written_cases other content with hsame | ⟨others, hput⟩
  · rwa [hsame]
  · rw [hput]
    exact h.put others content

theorem Writable.written (h : files.Writable path) (other : Option String)
    (content : List UInt8) : (files.written other content).Writable path := by
  obtain ⟨names, hnames⟩ := writable_iff.1 h
  exact writable_iff.2 ⟨names, hnames.written other content⟩

/-- **What is written to a path is read there**, also if the same bytes are written to another
path afterwards. -/
theorem read_written (h : files.Writable path) (content : List UInt8) :
    (files.written (some path) content).read path = .ok content := by
  obtain ⟨names, hnames⟩ := writable_iff.1 h
  rw [written_of_leadsTo hnames]
  exact hnames.read_put content

theorem read_written_written (h : files.Writable path) (other : Option String)
    (content : List UInt8) :
    ((files.written (some path) content).written other content).read path = .ok content := by
  obtain ⟨names, hnames⟩ := writable_iff.1 h
  rw [written_of_leadsTo hnames]
  rcases (files.put names content).written_cases other content with hsame | ⟨others, hput⟩
  · rw [hsame]
    exact hnames.read_put content
  · rw [hput]
    exact hnames.read_put_put others content

end FileSystem

end ClassDiagram
