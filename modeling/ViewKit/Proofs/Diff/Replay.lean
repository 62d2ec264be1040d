/-
# Changes carried out on a state

The entries of changes are written to a state one after the other: a value is put at its
path, and a removal deletes at its path.  That comes to what carrying the changes out as a
whole comes to (`replay_reaches`): every write succeeds, the root is afterwards what `apply`
makes of it, and each entry is announced once, with what was at its path before the first
write.

The proof follows the tree of changes.  At a leaf one field of one map is written
(`Replays.set`, `Replays.removed`); further up, the writes below a name leave what stands
under other names as it is, so what later writes find and announce is what was there at the
start (`Replays.append`).
-/
import ViewKit.Proofs.Diff.Entries
import ViewKit.Proofs.Path.Put
import ViewKit.Proofs.State.Journal

namespace ViewKit.State

/-! ## Runs of writes -/

/-- The write that carries out an entry of changes. -/
def Write.ofEntry : String × Option Value → Write
  | (path, some v) => .update path v
  | (path, none) => .delete path

/-- The operations that carry out the entries of changes in order. -/
def replay (entries : List (String × Option Value)) : List Operation :=
  entries.map fun entry => .write (.ofEntry entry)

variable (handlers : Handlers StateEvent)

lemma run_append (ops ops' : List Operation) (s : State) :
    run handlers (ops ++ ops') s =
      ((run handlers ops' (run handlers ops s).1).1,
        (run handlers ops s).2 ++ (run handlers ops' (run handlers ops s).1).2) := by
  induction ops generalizing s with
  | nil => rfl
  | cons op ops ih =>
    rw [List.cons_append, run, run, ih]
    simp only [List.append_assoc]

lemma attempts_append (ops ops' : List Operation) (s : State) :
    attempts handlers (ops ++ ops') s =
      attempts handlers ops s ++ attempts handlers ops' (run handlers ops s).1 := by
  induction ops generalizing s with
  | nil => rfl
  | cons op ops ih =>
    rw [List.cons_append, attempts, attempts, ih, List.append_assoc]
    rfl

/-- Carried out on a state, some entries succeed one and all, come to the given root and are
announced in order, each with what was at its path at the start. -/
structure Replays (s : State) (entries : List (String × Option Value)) (root : Value) : Prop where
  state : (run handlers (replay entries) s).1 = { s with root }
  log : (run handlers (replay entries) s).2 =
    entries.flatMap fun entry => (announce handlers ((Write.ofEntry entry).event s) s).entries
  succeeds : ∀ a ∈ attempts handlers (replay entries) s, (a.step handlers).result.isOk = true

variable {handlers} {s : State}

lemma Write.event_congr {s' : State} {entry : String × Option Value}
    (h : s'.get? entry.1 = s.get? entry.1) :
    (Write.ofEntry entry).event s' = (Write.ofEntry entry).event s := by
  obtain ⟨path, _ | v⟩ := entry
  · exact congrArg (StateEvent.deleted path) h
  · exact congrArg (StateEvent.updated path v) h

lemma Replays.nil : Replays handlers s [] s.root := ⟨rfl, rfl, nofun⟩

/-- Entries may follow at whose paths the first ones have changed nothing. -/
lemma Replays.append {entries entries' : List (String × Option Value)} {middle root : Value}
    (h : Replays handlers s entries middle)
    (h' : Replays handlers { s with root := middle } entries' root)
    (hsame : ∀ entry ∈ entries', Path.get? middle entry.1 = Path.get? s.root entry.1) :
    Replays handlers s (entries ++ entries') root := by
  have hreplay : replay (entries ++ entries') = replay entries ++ replay entries' :=
    List.map_append
  refine ⟨?_, ?_, ?_⟩
  · rw [hreplay, run_append, h.state, h'.state]
  · rw [hreplay, run_append, h.state, h.log, h'.log, List.flatMap_append]
    refine congrArg _ (List.flatMap_congr fun entry hentry => ?_)
    have hget : State.get? { s with root := middle } entry.1 = s.get? entry.1 :=
      hsame entry hentry
    rw [Write.event_congr hget]
    rfl
  · intro a ha
    rw [hreplay, attempts_append, h.state] at ha
    exact (List.mem_append.1 ha).elim (h.succeeds a) (h'.succeeds a)

/-- A single write that is announced. -/
lemma Replays.single {entry : String × Option Value} {root : Value}
    (h : (Write.ofEntry entry).perform handlers s =
      announce handlers ((Write.ofEntry entry).event s) { s with root }) :
    Replays handlers s [entry] root := by
  refine ⟨?_, ?_, ?_⟩
  · exact congrArg Step.state h
  · have hlog : (run handlers (replay [entry]) s).2 =
        ((Write.ofEntry entry).perform handlers s).entries ++ [] := rfl
    rw [hlog, h]
    rfl
  · intro a ha
    obtain rfl : a = ⟨s, Write.ofEntry entry⟩ := List.mem_singleton.1 ha
    rw [Attempt.step, h]
    rfl

/-! ## Entries along the tree of changes -/

open Diff

section Field

variable {path name : String} {fields : List (String × Value)}
  (hdot : '.' ∉ name.toList) (hname : path = "" → name ≠ "")
  (hmap : s.root.descend? (Path.segments path) = some (.map fields))
include hdot hname hmap

lemma Replays.set (v : Value) : Replays handlers s [(joinPath path name, some v)]
    (Path.putAt (Path.segments path) (.map (Fields.insert name v fields)) s.root) := by
  have hpath := segments_joinPath hdot hname
  refine .single ?_
  rw [Write.ofEntry, Write.perform, update_field handlers hpath hmap, Write.event, State.get?,
    Path.get?_field hpath hmap]

lemma Replays.removed : Replays handlers s [(joinPath path name, none)]
    (Path.putAt (Path.segments path) (.map (Fields.erase name fields)) s.root) := by
  have hpath := segments_joinPath hdot hname
  refine .single ?_
  rw [Write.ofEntry, Write.perform, delete_field handlers hpath hmap, Write.event, State.get?,
    Path.get?_field hpath hmap]

end Field

mutual

/-- The entries of a change under one name write what the change makes of that field. -/
lemma replays_entriesAt {s : State} {d : Diff} {x : Option Value} (hfits : Fits d x)
    {path name : String} {fields : List (String × Value)} (hx : Fields.get? name fields = x)
    (hdot : '.' ∉ name.toList) (hname : path = "" → name ≠ "")
    (hmap : s.root.descend? (Path.segments path) = some (.map fields)) :
    Replays handlers s (entriesAt (joinPath path name) d)
      (Path.putAt (Path.segments path) (.map (applyField name d fields)) s.root) := by
  cases hfits with
  | set v => exact .set hdot hname hmap v
  | removed => exact .removed hdot hname hmap
  | @nested changes inner hall =>
    have hpath := segments_joinPath hdot hname
    have hinner : s.root.descend? (Path.segments (joinPath path name)) = some (.map inner) := by
      rw [hpath]
      exact Path.descend?_field hmap hx
    have hempty : joinPath path name = "" → "" ∉ Fields.names changes :=
      fun h => absurd h (joinPath_ne_empty hname)
    have hbelow : Replays handlers s (entriesOf (joinPath path name) changes)
        (Path.putAt (Path.segments (joinPath path name)) (.map (applyAll changes inner)) s.root) :=
      replays_entriesOf hall hempty (fun _ _ => rfl) hinner
    have hfield : applyField name (.nested changes) fields = Fields.insert name
        (apply (.nested changes) ((Fields.get? name fields).getD .emptyMap)) fields := rfl
    rw [hpath, Path.putAt_append hmap] at hbelow
    rw [hfield, hx]
    exact hbelow

/-- The entries of the changes of the fields of a map write what the changes make of them,
also when other fields are no longer those that the changes were found to fit. -/
lemma replays_entriesOf {s : State} {cs : List (String × Diff)} {fields : List (String × Value)}
    (hfits : FitsAll cs fields) {path : String} {current : List (String × Value)}
    (hempty : path = "" → "" ∉ Fields.names cs)
    (hsame : ∀ name ∈ Fields.names cs, Fields.get? name current = Fields.get? name fields)
    (hmap : s.root.descend? (Path.segments path) = some (.map current)) :
    Replays handlers s (entriesOf path cs)
      (Path.putAt (Path.segments path) (.map (applyAll cs current)) s.root) := by
  cases hfits with
  | nil =>
    rw [applyAll, Path.putAt_self hmap]
    exact .nil
  | @cons name d cs _ hdot hname hd hcs =>
    have hne : path = "" → name ≠ "" := fun hp hn => hempty hp (hn ▸ List.mem_cons_self)
    have hrest : path = "" → "" ∉ Fields.names cs :=
      fun hp hn => hempty hp (List.mem_cons_of_mem _ hn)
    have hkeeps : ∀ other ∈ Fields.names cs,
        Fields.get? other (applyField name d current) = Fields.get? other current :=
      fun other hother => get?_applyField_of_ne (ne_of_mem_of_not_mem hother hname) d current
    have hfits' : ∀ other ∈ Fields.names cs,
        Fields.get? other (applyField name d current) = Fields.get? other fields :=
      fun other hother => (hkeeps other hother).trans (hsame other (List.mem_cons_of_mem _ hother))
    have hfirst : Replays handlers s (entriesAt (joinPath path name) d) _ :=
      replays_entriesAt hd (hsame name List.mem_cons_self) hdot hne hmap
    -- the map is still where it was, with one field changed
    have hmiddle := Path.descend?_putAt hmap (.map (applyField name d current))
    have hlater : Replays handlers
        { s with root := Path.putAt (Path.segments path) (.map (applyField name d current)) s.root }
        (entriesOf path cs) _ := replays_entriesOf hcs hrest hfits' hmiddle
    rw [Path.putAt_putAt hmap] at hlater
    rw [applyAll_cons]
    refine hfirst.append hlater fun entry hentry => ?_
    obtain ⟨other, hmem, more, hsegments⟩ := exists_segments_of_mem_entriesOf hcs hrest hentry
    exact Path.get?_congr_field hsegments hmap hmiddle (hkeeps other hmem)

end

/-! ## The law -/

/-- Changes between two maps that are carried out on a state entry by entry reach the new map:
every write succeeds, the root is afterwards what carrying the changes out on the old one
gives, which equals the new one, and the entries are announced in order, once each and with
what the old root held at their paths. -/
theorem replay_reaches (handlers : Handlers StateEvent) (s : State)
    (oldFields newFields : List (String × Value)) (d : Diff)
    (hroot : s.root = .map oldFields) (hold : s.root.WellFormed)
    (hnew : (Value.map newFields).WellFormed) (holdDots : s.root.Undotted)
    (hnewDots : (Value.map newFields).Undotted) (holdTop : "" ∉ Fields.names oldFields)
    (hnewTop : "" ∉ Fields.names newFields)
    (hd : between? (.map newFields) s.root = some d) :
    (∀ a ∈ attempts handlers (replay d.entries) s, (a.step handlers).result.isOk = true) ∧
      (run handlers (replay d.entries) s).1 = { s with root := d.apply s.root } ∧
      (d.apply s.root == .map newFields) = true ∧
      (run handlers (replay d.entries) s).2 = d.entries.flatMap fun entry =>
        (announce handlers ((Write.ofEntry entry).event s) s).entries := by
  have hequal := same_apply_of_between? hnew hold hd
  have hfits := fits_of_between? hnew hold hnewDots holdDots hd
  rw [hroot] at hd hold hfits
  have hg := (Value.wellFormed_map_iff.1 hold).1
  have hf := (Value.wellFormed_map_iff.1 hnew).1
  obtain rfl := eq_nested_of_between?_map hd
  cases hfits with | nested hall =>
  have htop : ("" : String) = "" → "" ∉ Fields.names (fieldChanges newFields oldFields) :=
    fun _ h => (mem_names_of_fieldChanges hf hg h).elim hnewTop holdTop
  have hreplays : Replays handlers s (entriesOf "" _) _ :=
    replays_entriesOf hall htop (fun _ _ => rfl) (congrArg some hroot)
  have happly : Path.putAt (Path.segments "") (.map
      (applyAll (fieldChanges newFields oldFields) oldFields)) s.root =
      (nested (fieldChanges newFields oldFields)).apply s.root := by
    rw [hroot]
    rfl
  rw [happly] at hreplays
  exact ⟨hreplays.succeeds, hreplays.state, hequal, hreplays.log⟩

/-- The law at changes that add, set and remove fields of two maps, one of them under the
empty name, and set a list whole. -/
theorem replay_reaches_nested :
    let old := [("a", Value.map [("x", .null), ("", .bool true)]), ("b", .text "gone"),
      ("l", .list [.map [("k", .null)]])]
    let new := [("l", Value.list []), ("c", .emptyMap),
      ("a", .map [("y", .null), ("x", .text "new")])]
    let d := nested [("c", .set .emptyMap),
      ("a", .nested [("y", .set .null), ("x", .set (.text "new")), ("", .removed)]),
      ("b", .removed), ("l", .set (.list []))]
    let root : Value := .map [("a", .map [("x", .text "new"), ("y", .null)]), ("l", .list []),
      ("c", .emptyMap)]
    let s : State := ⟨.map old, .emptyMap, Hub.empty.on eventNames "log"⟩
    (s.root = .map old ∧ s.root.WellFormed ∧ (Value.map new).WellFormed ∧ s.root.Undotted ∧
        (Value.map new).Undotted ∧ "" ∉ Fields.names old ∧ "" ∉ Fields.names new ∧
        between? (.map new) s.root = some d) ∧
      (∀ a ∈ attempts .silent (replay d.entries) s, (a.step .silent).result.isOk = true) ∧
      (run .silent (replay d.entries) s).1 = { s with root } ∧
      (root == .map new) = true ∧
      (run .silent (replay d.entries) s).2 = [.ran "log" (.updated "c" .emptyMap none),
        .ran "log" (.updated "a.y" .null none),
        .ran "log" (.updated "a.x" (.text "new") (some .null)),
        .ran "log" (.deleted "a." (some (.bool true))),
        .ran "log" (.deleted "b" (some (.text "gone"))),
        .ran "log" (.updated "l" (.list []) (some (.list [.map [("k", .null)]])))] := by
  intro old new d root s
  have hold : s.root.WellFormed := by
    simp [s, old, Value.WellFormed, Value.WellFormedFields, Value.WellFormedItems,
      Fields.Distinct, Fields.names]
  have hnew : (Value.map new).WellFormed := by
    simp [new, Value.WellFormed, Value.WellFormedFields, Value.WellFormedItems, Value.emptyMap,
      Fields.Distinct, Fields.names]
  have hdots : s.root.Undotted ∧ (Value.map new).Undotted := by decide
  have htop : "" ∉ Fields.names old ∧ "" ∉ Fields.names new := by decide
  have hd : between? (.map new) s.root = some d := by rfl
  obtain ⟨hsucceeds, hstate, hequal, hlog⟩ := replay_reaches .silent s old new d rfl hold hnew
    hdots.1 hdots.2 htop.1 htop.2 hd
  exact ⟨⟨rfl, hold, hnew, hdots.1, hdots.2, htop.1, htop.2, hd⟩, hsucceeds, hstate, hequal,
    hlog.trans rfl⟩

end ViewKit.State
