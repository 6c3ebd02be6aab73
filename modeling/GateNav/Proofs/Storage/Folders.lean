import Mathlib.Data.List.Induction
import GateNav.Proofs.Storage.Files
import GateNav.Proofs.Storage.Paths

/-!
# Folders made on the way

The `Place.way` of a path is the row of places that its parts lead through. Where no file is on the way and all names
fit, the folders on it can be made: after `Storage.makeFolders` every place on the way is a folder, and all other places
are as they were (`Disk.exists_run_makeInside`).
-/

namespace GateNav.Disk

/-! ### The way of a path -/

namespace Place

/-- The place that parts lead to. -/
def reach (place : Place) (parts : List String) : Place := parts.foldl next place

/-- All places that parts lead through. -/
def way (place : Place) : List String → List Place
  | [] => [place]
  | part :: parts => place :: (place.next part).way parts

variable {start place q : Place} {parts : List String} {part : String}

theorem reach_cons : place.reach (part :: parts) = (place.next part).reach parts := rfl

theorem reach_concat : place.reach (parts ++ [part]) = (place.reach parts).next part := by
  simp [reach]

theorem mem_way_concat : q ∈ place.way (parts ++ [part]) ↔ q ∈ place.way parts ∨ q = place.reach (parts ++ [part]) := by
  induction parts generalizing place with
  | nil => simp [way, reach]
  | cons first parts ih => simp [way, reach_cons, ih, or_assoc]

theorem reach_mem_way (place : Place) (parts : List String) : place.reach parts ∈ place.way parts := by
  induction parts generalizing place with
  | nil => exact List.mem_singleton_self _
  | cons part parts ih => exact List.mem_cons_of_mem _ (ih _)

theorem next_of_idle (idle : isIdle part = true) : place.next part = place := if_pos idle

theorem mem_way_of_idle (idle : isIdle part = true) : q ∈ place.way (parts ++ [part]) ↔ q ∈ place.way parts := by
  rw [mem_way_concat, reach_concat, next_of_idle idle]
  exact or_iff_left_of_imp fun same => same ▸ reach_mem_way place parts

theorem names_up (top : place.names = []) : place.up.names = [] := by
  unfold up
  rw [top]
  simp only [List.isEmpty_nil, if_true]
  split
  · exact top
  · rfl

/-- A way that starts from one of the folders that are always there comes by every folder that it goes up to. -/
theorem up_mem_way (anchored : start.names = []) (hq : q ∈ start.way parts) :
    q.up ∈ start.way parts ∨ q.up.names = [] := by
  induction parts using List.reverseRecOn generalizing q with
  | nil =>
    rw [way, List.mem_singleton] at hq
    subst hq
    exact .inr (names_up anchored)
  | append_singleton parts part ih =>
    have kept {q : Place} (h : q ∈ start.way parts ∨ q.names = []) :
        q ∈ start.way (parts ++ [part]) ∨ q.names = [] := h.imp_left fun h => mem_way_concat.2 (.inl h)
    rcases mem_way_concat.1 hq with hq | rfl
    · exact kept (ih hq)
    · have before := reach_mem_way start parts
      rw [reach_concat]
      unfold next
      split
      · exact kept (ih before)
      · split
        · rcases ih before with visited | top
          · exact kept (ih visited)
          · exact .inr (names_up top)
        -- The folder that a name is in is the place before it.
        · refine .inl (mem_way_concat.2 (.inl ?_))
          simpa [up] using before

end Place

/-! ### Walking on a disk -/

variable {d d' : Disk} {start place : Place} {parts upward : List String} {part path : String}

/-- All of these places are folders. -/
def Folders (d : Disk) (places : List Place) : Prop := ∀ q ∈ places, d.find? q = some .folder

/-- None of these places is a file. -/
def Clear (d : Disk) (places : List Place) : Prop := ∀ q ∈ places, ∀ content, d.find? q ≠ some (.file content)

/-- No name is too long. -/
def Fits (parts : List String) : Prop := ∀ part ∈ parts, part.utf8ByteSize ≤ maxNameSize

theorem find?_of_names (top : place.names = []) : d.find? place = some .folder := by
  unfold find?
  rw [top]
  rfl

theorem foldlM_step_of_folders (folders : d.Folders (place.way parts)) (fits : Fits parts) :
    parts.foldlM d.step place = .ok (place.reach parts) := by
  induction parts generalizing place with
  | nil => rfl
  | cons part parts ih =>
    obtain ⟨here, later⟩ := List.forall_mem_cons.1 folders
    obtain ⟨short, shorts⟩ := List.forall_mem_cons.1 fits
    rw [List.foldlM_cons]
    exact Except.bind_eq_ok.2 ⟨_, step_eq_ok.2 ⟨here, short, rfl⟩, ih later shorts⟩

/-- A way on which a folder is missing, but no file is, is not walked to a folder at its end. -/
theorem foldlM_step_of_missing (clear : d.Clear (place.way parts)) (fits : Fits parts)
    (missing : ¬ d.Folders (place.way parts)) :
    parts.foldlM d.step place = .error .missing ∨
      parts.foldlM d.step place = .ok (place.reach parts) ∧ d.find? (place.reach parts) = none := by
  have gone {q : Place} (free : ∀ content, d.find? q ≠ some (.file content)) (other : d.find? q ≠ some .folder) :
      d.find? q = none := by
    cases found : d.find? q with
    | none => rfl
    | some e =>
      cases e with
      | file content => exact absurd found (free content)
      | folder => exact absurd found other
  induction parts generalizing place with
  | nil =>
    refine .inr ⟨rfl, gone (clear place (List.mem_singleton_self _)) fun here => missing ?_⟩
    exact List.forall_mem_singleton.2 here
  | cons part parts ih =>
    obtain ⟨free, later⟩ := List.forall_mem_cons.1 clear
    obtain ⟨short, shorts⟩ := List.forall_mem_cons.1 fits
    rw [List.foldlM_cons]
    by_cases here : d.find? place = some .folder
    · have step : d.step place part = .ok (place.next part) := step_eq_ok.2 ⟨here, short, rfl⟩
      rw [step]
      exact ih later shorts fun folders => missing (List.forall_mem_cons.2 ⟨here, folders⟩)
    · left
      have stuck : d.step place part = .error .missing := by
        unfold step enter
        rw [gone free here]
        rfl
      rw [stuck]
      rfl

/-! ### Making one folder -/

/-- The disk `d'` holds what `d` does, but for folders at some of these places. -/
def Adds (d d' : Disk) (places : List Place) : Prop :=
  ∀ q, d'.find? q = d.find? q ∨ q ∈ places ∧ d'.find? q = some .folder

theorem Adds.refl {places : List Place} : d.Adds d places := fun _ => .inl rfl

theorem Adds.trans {d'' : Disk} {places places' : List Place} (h : d.Adds d' places) (h' : d'.Adds d'' places')
    (sub : ∀ q ∈ places, q ∈ places') : d.Adds d'' places' := by
  intro q
  rcases h' q with same | added
  · exact (h q).imp (same.trans ·) fun ⟨hq, folder⟩ => ⟨sub q hq, same.trans folder⟩
  · exact .inr added

theorem Adds.clear {places others : List Place} (h : d.Adds d' places) (clear : d.Clear others) : d'.Clear others := by
  intro q hq content
  rcases h q with same | ⟨-, folder⟩
  · rw [same]
    exact clear q hq content
  · rw [folder]
    nofun

section Site
variable {known : StorageFault} {inner : List String}

theorem dropWhile_named (named : part ≠ "") :
    (inner ++ [part]).reverse.dropWhile (fun part => part.isEmpty) = part :: inner.reverse := by
  rw [List.reverse_append, List.reverse_singleton, List.singleton_append]
  exact List.dropWhile_cons_of_neg (by simpa using named)

theorem site_of_folders (routed : route path = .ok (start, inner ++ [part])) (named : part ≠ "")
    (folders : d.Folders (start.way inner)) (fits : Fits inner) :
    d.site known path = if isDots part then .error known else .ok (start.reach inner, part, false) := by
  have entered : d.enter (start.reach inner) = .ok () := enter_eq_ok.2 (folders _ (Place.reach_mem_way _ _))
  unfold site
  rw [routed]
  simp only [bind, Except.bind, dropWhile_named named, List.drop_one, List.tail_cons, List.reverse_reverse,
    foldlM_step_of_folders folders fits, entered]
  split
  · rfl
  · simp [pure, Except.pure]

theorem site_of_missing (routed : route path = .ok (start, inner ++ [part])) (named : part ≠ "")
    (clear : d.Clear (start.way inner)) (fits : Fits inner) (missing : ¬ d.Folders (start.way inner)) :
    d.site known path = .error .missing := by
  unfold site
  rw [routed]
  simp only [bind, Except.bind, dropWhile_named named, List.drop_one, List.tail_cons, List.reverse_reverse]
  rcases foldlM_step_of_missing clear fits missing with stuck | ⟨walked, gone⟩
  · rw [stuck]
  · rw [walked]
    simp only [enter, gone]
    rfl

theorem makeFolder_of_missing (routed : route path = .ok (start, inner ++ [part])) (named : part ≠ "")
    (clear : d.Clear (start.way inner)) (fits : Fits inner) (missing : ¬ d.Folders (start.way inner)) :
    d.makeFolder path = .error .missing := by
  unfold makeFolder
  rw [site_of_missing routed named clear fits missing]
  rfl

/-- Where all folders on the way are there, the last one is made, or it is there already. -/
theorem makeFolder_of_folders (routed : route path = .ok (start, inner ++ [part])) (named : part ≠ "")
    (folders : d.Folders (start.way inner)) (fits : Fits (inner ++ [part]))
    (clear : d.Clear (start.way (inner ++ [part]))) :
    d.makeFolder path = .ok (d.put (start.reach (inner ++ [part])) .folder) ∧
        d.find? (start.reach (inner ++ [part])) = none ∨
      d.makeFolder path = .error .occupied ∧ d.find? (start.reach (inner ++ [part])) = some .folder := by
  have fits_inner : Fits inner := fun p hp => fits p (List.mem_append_left _ hp)
  have free := clear _ (Place.reach_mem_way _ _)
  have site : d.site .occupied path = if isDots part then .error .occupied else .ok (start.reach inner, part, false) :=
    site_of_folders routed named folders fits_inner
  rw [Place.reach_concat] at free ⊢
  unfold makeFolder
  rw [site]
  by_cases dots : isDots part = true
  · right
    rw [if_pos dots]
    refine ⟨rfl, ?_⟩
    have here := folders _ (Place.reach_mem_way start inner)
    unfold Place.next
    split
    · exact here
    · rw [if_pos (by simp_all [isDots])]
      rcases Place.up_mem_way (names_of_route routed) (Place.reach_mem_way start inner) with visited | top
      · exact folders _ visited
      · exact find?_of_names top
  · rw [if_neg dots]
    have step : d.step (start.reach inner) part = .ok ((start.reach inner).next part) :=
      step_eq_ok.2 ⟨folders _ (Place.reach_mem_way _ _), fits part (by simp), rfl⟩
    simp only [bind, Except.bind, step]
    cases found : d.find? ((start.reach inner).next part) with
    | none => exact .inl ⟨rfl, rfl⟩
    | some e =>
      cases e with
      | file content => exact absurd found (free content)
      | folder => exact .inr ⟨rfl, rfl⟩

end Site

theorem holdsFolder_of_folders (routed : route path = .ok (start, parts)) (folders : d.Folders (start.way parts))
    (fits : Fits parts) : d.holdsFolder path = true := by
  have found : d.lookUp path = .ok .folder := by
    unfold lookUp locate
    rw [routed]
    simp only [bind, Except.bind, foldlM_step_of_folders folders fits, folders _ (Place.reach_mem_way _ _)]
    rfl
  unfold holdsFolder
  rw [found]
  rfl

/-! ### Making all folders -/

section Run
variable {inner others : List String} {result : Except StorageFault Unit}

theorem run_makeFolder_of_ok (made : d.makeFolder path = .ok d') :
    (Storage.makeFolder (m := StateM Disk) path).run d = (.ok (), d') := by
  show (change (·.makeFolder path)).run d = _
  simp only [change, StateT.run_bind, StateT.run_get, pure_bind, made]
  rfl

theorem run_makeFolder_of_error {fault : StorageFault} (failed : d.makeFolder path = .error fault) :
    (Storage.makeFolder (m := StateM Disk) path).run d = (.error fault, d) := by
  show (change (·.makeFolder path)).run d = _
  simp only [change, StateT.run_bind, StateT.run_get, pure_bind, failed]
  rfl

theorem run_accept_of_holdsFolder (there : d.holdsFolder path = true) :
    (Storage.accept (m := StateM Disk) path result).run d = (.ok (), d) := by
  cases result with
  | ok => rfl
  | error fault =>
    have looks : (Storage.holdsFolder (m := StateM Disk) path).run d = (true, d) := by
      show (true && d.holdsFolder path, d) = _
      rw [there]
      rfl
    unfold Storage.accept
    rw [StateT.run_bind, looks]
    rfl

theorem run_makeInside_of_made (made : (Storage.makeFolder (m := StateM Disk) path).run d = (result, d'))
    (present : result ≠ .error .missing) : (Storage.makeInside (m := StateM Disk) (path :: others)).run d =
      (Storage.accept (m := StateM Disk) path result).run d' := by
  rw [Storage.makeInside, StateT.run_bind, made]
  cases result with
  | ok => rfl
  | error fault =>
    cases fault with
    | missing => exact absurd rfl present
    | _ => rfl

theorem run_makeInside_of_missing (missing : d.makeFolder path = .error .missing)
    (before : (Storage.makeInside (m := StateM Disk) others).run d = (.ok (), d')) :
    (Storage.makeInside (m := StateM Disk) (path :: others)).run d =
      (Storage.makeFolder (m := StateM Disk) path >>= Storage.accept path).run d' := by
  rw [Storage.makeInside, StateT.run_bind, run_makeFolder_of_error missing]
  show (Storage.makeInside (m := StateM Disk) others >>= _).run d = _
  rw [StateT.run_bind, before]
  rfl

/-- Where all folders on the way are there, so is the last one in the end. -/
theorem exists_run_makeFolder (routed : route path = .ok (start, inner ++ [part])) (named : part ≠ "")
    (folders : d.Folders (start.way inner)) (fits : Fits (inner ++ [part]))
    (clear : d.Clear (start.way (inner ++ [part]))) :
    ∃ result d', (Storage.makeFolder (m := StateM Disk) path).run d = (result, d') ∧ result ≠ .error .missing ∧
      (Storage.accept (m := StateM Disk) path result).run d' = (.ok (), d') ∧
      d.Adds d' (start.way (inner ++ [part])) ∧ d'.Folders (start.way (inner ++ [part])) := by
  rcases makeFolder_of_folders routed named folders fits clear with ⟨made, new⟩ | ⟨failed, there⟩
  · have below : (start.reach (inner ++ [part])).names.isEmpty = false := by
      by_contra top
      rw [find?_of_names (by simpa using top)] at new
      cases new
    refine ⟨_, _, run_makeFolder_of_ok made, nofun, rfl, fun q => ?_, fun q hq => ?_⟩
    · by_cases same : q = start.reach (inner ++ [part])
      · subst same
        exact .inr ⟨Place.reach_mem_way _ _, find?_put_self below⟩
      · exact .inl (find?_put_other same)
    · rcases Place.mem_way_concat.1 hq with visited | rfl
      · refine find?_put_folder ?_ (folders q visited)
        rw [new]
        nofun
      · exact find?_put_self below
  · have all : d.Folders (start.way (inner ++ [part])) := by
      intro q hq
      rcases Place.mem_way_concat.1 hq with visited | rfl
      · exact folders q visited
      · exact there
    exact ⟨_, _, run_makeFolder_of_error failed, nofun,
      run_accept_of_holdsFolder (holdsFolder_of_folders routed all fits), .refl, all⟩

/-- The root is always there. -/
theorem run_makeFolder_root (routed : route path = .ok (start, ["", ""])) :
    (Storage.makeFolder (m := StateM Disk) path).run d = (.error .occupied, d) ∧ d.holdsFolder path = true := by
  have here : d.find? start = some .folder := find?_of_names (names_of_route routed)
  have root : d.makeFolder path = .error .occupied := by
    have entered : d.enter start = .ok () := enter_eq_ok.2 here
    unfold makeFolder site
    rw [routed]
    simp [bind, Except.bind, pure, Except.pure, entered]
    rfl
  have folders : d.Folders (start.way ["", ""]) := by
    have idle : start.next "" = start := Place.next_of_idle rfl
    simp only [Place.way, idle]
    intro q hq
    simp only [List.mem_cons, List.not_mem_nil, or_false, or_self] at hq
    rw [hq, here]
  exact ⟨run_makeFolder_of_error root, holdsFolder_of_folders routed folders (by unfold Fits; decide)⟩

/-- A folder is made in those that lead to it, which are made before it if they are not there. -/
theorem exists_run_makeInside_cons (routed : route path = .ok (start, inner ++ [part])) (named : part ≠ "")
    (fits : Fits (inner ++ [part])) (clear : d.Clear (start.way (inner ++ [part])))
    (before : inner ≠ [] → ∃ d', (Storage.makeInside (m := StateM Disk) others).run d = (.ok (), d') ∧
      d.Adds d' (start.way inner) ∧ d'.Folders (start.way inner)) :
    ∃ d', (Storage.makeInside (m := StateM Disk) (path :: others)).run d = (.ok (), d') ∧
      d.Adds d' (start.way (inner ++ [part])) ∧ d'.Folders (start.way (inner ++ [part])) := by
  have wider : ∀ q ∈ start.way inner, q ∈ start.way (inner ++ [part]) := fun q hq => Place.mem_way_concat.2 (.inl hq)
  by_cases folders : d.Folders (start.way inner)
  · obtain ⟨result, d', made, present, accepted, adds, all⟩ := exists_run_makeFolder routed named folders fits clear
    exact ⟨d', (run_makeInside_of_made made present).trans accepted, adds, all⟩
  · have some_inner : inner ≠ [] := by
      rintro rfl
      exact folders (List.forall_mem_singleton.2 (find?_of_names (names_of_route routed)))
    obtain ⟨d₁, run, adds₁, folders₁⟩ := before some_inner
    have missing : d.makeFolder path = .error .missing :=
      makeFolder_of_missing routed named (fun q hq => clear q (wider q hq))
        (fun p hp => fits p (List.mem_append_left _ hp)) folders
    obtain ⟨result, d', made, -, accepted, adds, all⟩ :=
      exists_run_makeFolder routed named folders₁ fits (adds₁.clear clear)
    refine ⟨d', (run_makeInside_of_missing missing run).trans ?_, adds₁.trans adds wider, all⟩
    rw [StateT.run_bind, made]
    exact accepted

/-- The folders on the way are made, and nothing else. -/
theorem exists_run_makeInside (routed : route path = .ok (start, parts)) (inner : part :: upward <:+ parts.reverse)
    (some_part : upward ≠ []) (fits : Fits parts) (clear : d.Clear (start.way upward.reverse)) :
    ∃ d', (Storage.makeInside (m := StateM Disk) (pathsUp upward)).run d = (.ok (), d') ∧
      d.Adds d' (start.way upward.reverse) ∧ d'.Folders (start.way upward.reverse) := by
  induction upward generalizing part with
  | nil => exact absurd rfl some_part
  | cons last before ih =>
    have routed' := route_pathOf routed inner some_part
    have within : last :: before <:+ parts.reverse := (List.suffix_cons _ _).trans inner
    have fits' : Fits (last :: before).reverse := fun p hp =>
      fits p (List.mem_reverse.1 (within.subset (List.mem_reverse.1 hp)))
    have before_ok : before ≠ [] → d.Clear (start.way before.reverse) →
        ∃ d', (Storage.makeInside (m := StateM Disk) (pathsUp before)).run d = (.ok (), d') ∧
          d.Adds d' (start.way before.reverse) ∧ d'.Folders (start.way before.reverse) := ih within
    rw [List.reverse_cons] at fits' clear ⊢
    have clear' : d.Clear (start.way before.reverse) := fun q hq => clear q (Place.mem_way_concat.2 (.inl hq))
    by_cases idle : before ≠ [] ∧ isIdle last = true
    -- An idle part leads to no other place.
    · obtain ⟨some_before, idle⟩ := idle
      have same : pathsUp (last :: before) = pathsUp before := by rw [pathsUp_cons, if_pos ⟨some_before, idle⟩]
      obtain ⟨d', run, adds, folders⟩ := before_ok some_before clear'
      refine ⟨d', by rw [same, run], fun q => (adds q).imp_right (And.imp_left ?_), fun q hq => folders q ?_⟩
      · exact (Place.mem_way_of_idle idle).2
      · exact (Place.mem_way_of_idle idle).1 hq
    · rw [pathsUp_cons, if_neg idle]
      by_cases root : last :: before = [""]
      · rw [if_pos root] at routed'
        obtain ⟨rfl, rfl⟩ := List.cons.inj root
        obtain ⟨run, there⟩ := run_makeFolder_root (d := d) routed'
        refine ⟨d, (run_makeInside_of_made run (by simp)).trans (run_accept_of_holdsFolder there), .refl,
          fun q hq => ?_⟩
        rw [Place.mem_way_of_idle rfl, List.reverse_nil, Place.way, List.mem_singleton] at hq
        rw [hq, find?_of_names (names_of_route routed)]
      · rw [if_neg root, List.reverse_cons] at routed'
        have named : last ≠ "" := by
          rintro rfl
          refine idle ⟨?_, rfl⟩
          rintro rfl
          exact root rfl
        exact exists_run_makeInside_cons routed' named fits' clear fun some_inner =>
          before_ok (by simpa using some_inner) clear'

end Run

/-! ### A place for a file -/

section File
variable {way : List String} {name text : String}

/-- The path ends in a name, all names fit, and no file is on the way. -/
structure Leads (d : Disk) (path : String) (start : Place) (way : List String) (name : String) : Prop where
  route : route path = .ok (start, way ++ [name])
  named : name ≠ "" ∧ isDots name = false
  fits : Fits (way ++ [name])
  clear : d.Clear (start.way way)

/-- Where the path leads to there is no folder, and none is on the way. -/
structure Admits (d : Disk) (path : String) (start : Place) (way : List String) (name : String) : Prop
    extends Leads d path start way name where
  free : d.find? (start.reach (way ++ [name])) ≠ some .folder
  apart : start.reach (way ++ [name]) ∉ start.way way

/-- The folders on the way to a path are made. -/
def wayTo (path : String) : StateM Disk (Except StorageFault Unit) :=
  match parentPath? path with
  | none => return .ok ()
  | some folder => Storage.makeFolders folder

theorem keepsFiles_wayTo : KeepsFiles (wayTo path) := by
  unfold wayTo
  split
  · exact keepsFiles_pure _
  · exact keepsFiles_makeInside _

theorem Leads.wayTo_eq (h : d.Leads path start way name) : wayTo path = Storage.makeInside (pathsUp way.reverse) := by
  obtain ⟨some_name, plain⟩ := h.named
  have named : isIdle name = false := by
    simp only [isDots, Bool.or_eq_false_iff] at plain
    simp [isIdle, some_name, plain.1]
  have parts := (route_eq_ok.1 h.route).2.2.2.2.symm
  unfold wayTo
  rw [parentPath?_of_parts parts named]
  show Storage.makeInside (pathsUpward (pathOf (trimIdle way.reverse))) = _
  by_cases some_way : way.reverse = []
  · rw [some_way]
    rfl
  · obtain ⟨x, inner⟩ : ∃ x, x :: trimIdle way.reverse <:+ (way ++ [name]).reverse :=
      exists_cons_suffix (trimIdle_suffix way.reverse)
    rw [pathsUpward_pathOf h.route inner (trimIdle_ne_nil some_way), pathsUp_trimIdle]

/-- Whatever is missing on the way is made. -/
theorem Leads.exists_run (h : d.Leads path start way name) :
    ∃ d', (wayTo path).run d = (.ok (), d') ∧ d.Adds d' (start.way way) ∧ d'.Folders (start.way way) := by
  rw [h.wayTo_eq]
  by_cases some_way : way = []
  · subst some_way
    exact ⟨d, rfl, .refl, List.forall_mem_singleton.2 (find?_of_names (names_of_route h.route))⟩
  · have inner : name :: way.reverse <:+ (way ++ [name]).reverse := ⟨[], by simp⟩
    have made := exists_run_makeInside h.route inner (by simpa using some_way) h.fits
      (by rw [List.reverse_reverse]; exact h.clear)
    rwa [List.reverse_reverse] at made

theorem write_of_folders (h : d.Leads path start way name) (folders : d'.Folders (start.way way))
    (free : d'.find? (start.reach (way ++ [name])) ≠ some .folder) :
    d'.write path text = .ok (d'.put (start.reach (way ++ [name])) (.file text)) := by
  have site : d'.site .folder path = .ok (start.reach way, name, false) := by
    rw [site_of_folders h.route h.named.1 folders fun p hp => h.fits p (List.mem_append_left _ hp), h.named.2,
      if_neg Bool.false_ne_true]
  have step : d'.step (start.reach way) name = .ok (start.reach (way ++ [name])) :=
    step_eq_ok.2 ⟨folders _ (Place.reach_mem_way _ _), h.fits name (by simp), Place.reach_concat.symm⟩
  unfold write
  rw [site]
  simp only [bind, Except.bind, step, Bool.false_eq_true, if_false, if_neg free]
  rfl

/-- A file can be written, once whatever is missing on the way is made. -/
theorem Admits.exists_run (h : d.Admits path start way name) :
    ∃ d', (wayTo path).run d = (.ok (), d') ∧
      ∀ text, d'.write path text = .ok (d'.put (start.reach (way ++ [name])) (.file text)) := by
  obtain ⟨d', run, adds, folders⟩ := h.toLeads.exists_run
  refine ⟨d', run, fun text => write_of_folders h.toLeads folders ?_⟩
  rcases adds (start.reach (way ++ [name])) with same | ⟨on_way, -⟩
  · rw [same]
    exact h.free
  · exact absurd on_way h.apart

end File

end GateNav.Disk
