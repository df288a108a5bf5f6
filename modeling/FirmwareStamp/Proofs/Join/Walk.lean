import FirmwareStamp.Proofs.Disk.Descend
import FirmwareStamp.Join.Mask

/-!
The walk behind a mask ends. `Walks d dir segments out` is the walk as its rules read,
with no measure: a name steps into an entry that exists, a pattern into every listed entry
it matches, and `**` both takes its segment and enters every real directory listed with the
same segments, so that a derivation exists exactly when the recursion stops. On a proper
disk every directory `**` enters lies one level below the one listing it (`room_join_lt`),
even where links lead back up, so the walk's own guard never cuts and the walk computes the
one output its rules give: every walk ends, links and cycles included.
-/

namespace FirmwareStamp.Join

open Disk

variable {d : Disk}

/-- The walk as its rules read: the files reached, in listing order. -/
inductive Walks (d : Disk) : String → List Segment → List String → Prop
  /-- At the end of the segments a regular file counts, -/
  | reached {dir : String} : d.isFile dir = true → Walks d dir [] [dir]
  /-- and anything else does not. -/
  | ignored {dir : String} : d.isFile dir = false → Walks d dir [] []
  | literal {dir n : String} {rest : List Segment} {out : List String} :
      d.present (Path.join dir n) = true → Walks d (Path.join dir n) rest out →
      Walks d dir (.literal n :: rest) out
  | absent {dir n : String} {rest : List Segment} :
      d.present (Path.join dir n) = false → Walks d dir (.literal n :: rest) []
  | pattern {dir : String} {p : Glob.Pattern} {rest : List Segment}
      (outs : String × Node → List String) :
      (∀ e ∈ listDir d dir, p.matchName e.1 = true → Walks d (Path.join dir e.1) rest (outs e)) →
      Walks d dir (.pattern p :: rest)
        ((listDir d dir).flatMap fun e => if p.matchName e.1 then outs e else [])
  | recursive {dir : String} {rest : List Segment} {here : List String}
      (outs : String × Node → List String) :
      Walks d dir rest here →
      (∀ e ∈ listDir d dir, e.2 = .dir →
        Walks d (Path.join dir e.1) (.recursive :: rest) (outs e)) →
      Walks d dir (.recursive :: rest)
        (here ++ (listDir d dir).flatMap fun e => if e.2 = .dir then outs e else [])

/-- The rules give one output at most. -/
theorem Walks.unique {dir : String} {segments : List Segment} {out out' : List String}
    (h : Walks d dir segments out) (h' : Walks d dir segments out') : out = out' := by
  induction h generalizing out' with
  | reached hf => cases h' with
    | reached _ => rfl
    | ignored hf' => simp_all
  | ignored hf => cases h' with
    | reached hf' => simp_all
    | ignored _ => rfl
  | literal hp _ ih => cases h' with
    | literal _ hrest => exact ih hrest
    | absent hp' => simp_all
  | absent hp => cases h' with
    | literal hp' _ => simp_all
    | absent _ => rfl
  | pattern outs _ ih => cases h' with
    | pattern outs' hall' =>
      refine List.flatMap_congr fun e he => ?_
      split
      · rename_i hm
        exact ih e he hm (hall' e he hm)
      · rfl
  | recursive outs _ _ ihere ih => cases h' with
    | recursive outs' hhere' hall' =>
      rw [ihere hhere']
      congr 1
      refine List.flatMap_congr fun e he => ?_
      split
      · rename_i hdir
        exact ih e he hdir (hall' e he hdir)
      · rfl

/-! The walk's equations, one for each kind of segment, read off its unfolding. -/

theorem walk_nil (dir : String) : walk d dir [] = if d.isFile dir then [dir] else [] := by
  rw [walk.eq_def]

theorem walk_literal (dir n : String) (rest : List Segment) :
    walk d dir (.literal n :: rest) =
      if d.present (Path.join dir n) then walk d (Path.join dir n) rest else [] := by
  rw [walk.eq_def]

theorem walk_pattern (dir : String) (p : Glob.Pattern) (rest : List Segment) :
    walk d dir (.pattern p :: rest) = (listDir d dir).flatMap fun e =>
      if p.matchName e.1 then walk d (Path.join dir e.1) rest else [] := by
  rw [walk.eq_def]

theorem walk_recursive (dir : String) (rest : List Segment) :
    walk d dir (.recursive :: rest) = walk d dir rest ++ (listDir d dir).flatMap fun e =>
      if _deeper : e.2 = .dir ∧ room d (Path.join dir e.1) < room d dir then
        walk d (Path.join dir e.1) (.recursive :: rest)
      else [] := by
  rw [walk.eq_def]

/-- An entry listed under a text: the text leads to a directory that holds it. -/
theorem mem_listDir {dir : String} {e : String × Node} (h : e ∈ listDir d dir) :
    ∃ p sl, d.locate true dir = .ok (.found p .dir sl) ∧ e ∈ d.children p := by
  unfold listDir readDir at h
  split at h
  · rename_i entries hread
    split at hread
    · rename_i p sl hloc
      simp only [Except.ok.injEq] at hread
      exact ⟨p, sl, hloc, hread ▸ h⟩
    · cases hread
    · cases hread
    · cases hread
  · cases h

theorem le_foldl_max {l : List Nat} {x : Nat} :
    ∀ {acc : Nat}, (x ≤ acc ∨ x ∈ l) → x ≤ l.foldl max acc := by
  induction l with
  | nil => intro acc h; simpa using h
  | cons a l ih =>
    intro acc h
    refine ih ?_
    rcases h with h | h
    · exact Or.inl (Nat.le_trans h (Nat.le_max_left _ _))
    · rcases List.mem_cons.1 h with rfl | h
      · exact Or.inl (Nat.le_max_right _ _)
      · exact Or.inr h

theorem length_le_deepest {q : List String} {k : Node} (h : (q, k) ∈ d.entries) :
    q.length ≤ deepest d :=
  le_foldl_max (Or.inr (List.mem_map.2 ⟨(q, k), h, rfl⟩))

theorem room_of_locate {dir : String} {p : List String} {sl : Bool}
    (h : d.locate true dir = .ok (.found p .dir sl)) : room d dir = deepest d + 1 - p.length := by
  simp [room, h]

/-- On a proper disk, a real directory listed under a text lies one level below the
directory the text leads to, wherever links took the text: this is the measure `**`
descends along. -/
theorem room_join_lt (hd : d.Proper) {dir : String} {e : String × Node}
    (he : e ∈ listDir d dir) (hdir : e.2 = .dir) : room d (Path.join dir e.1) < room d dir := by
  obtain ⟨p, sl, hloc, hc⟩ := mem_listDir he
  have hmem := mem_children hc
  have hlen := length_le_deepest hmem
  have hnode : d.node? (p ++ [e.1]) = some .dir := hdir ▸ hd.node?_of_mem (by simp) hmem
  rw [room_of_locate hloc]
  simp only [List.length_append, List.length_cons, List.length_nil] at hlen
  rcases locate_join_child (hd.properName_of_children hc) hloc hnode with hj | ⟨err, hj⟩
  · rw [room_of_locate hj, List.length_append, List.length_singleton]
    omega
  · simp only [room, hj]
    omega

/-- On a proper disk the walk's guard holds of every real directory listed, so `**` enters
each of them. -/
theorem flatMap_guard (hd : d.Proper) (dir : String) (rest : List Segment) :
    ((listDir d dir).flatMap fun e =>
        if _deeper : e.2 = .dir ∧ room d (Path.join dir e.1) < room d dir then
          walk d (Path.join dir e.1) (.recursive :: rest) else []) =
      (listDir d dir).flatMap fun e =>
        if e.2 = .dir then walk d (Path.join dir e.1) (.recursive :: rest) else [] := by
  refine List.flatMap_congr fun e he => ?_
  by_cases hdir : e.2 = .dir
  · simp [hdir, room_join_lt hd he hdir]
  · simp [hdir]

theorem walk_recursive_of_proper (hd : d.Proper) (dir : String) (rest : List Segment) :
    walk d dir (.recursive :: rest) = walk d dir rest ++ (listDir d dir).flatMap fun e =>
      if e.2 = .dir then walk d (Path.join dir e.1) (.recursive :: rest) else [] := by
  rw [walk_recursive, flatMap_guard hd]

/-- On a proper disk the walk follows its rules. -/
theorem walks_walk (hd : d.Proper) (dir : String) (segments : List Segment) :
    Walks d dir segments (walk d dir segments) := by
  fun_induction walk d dir segments with
  | case1 dir hf => exact .reached hf
  | case2 dir hf => exact .ignored (by simpa using hf)
  | case3 dir n rest next hp ih => exact .literal hp ih
  | case4 dir n rest next hp => exact .absent (by simpa using hp)
  | case5 dir p rest ih => exact .pattern _ fun e _ _ => ih e
  | case6 dir rest ihere ih =>
    rw [flatMap_guard hd]
    exact .recursive _ ihere fun e he hdir => ih e ⟨hdir, room_join_lt hd he hdir⟩

/-- Every walk on a proper disk ends: its rules give an output, and exactly the one the
walk computes, whatever links and cycles the segments run into. -/
theorem walk_terminates (hd : d.Proper) (dir : String) (segments : List Segment)
    (out : List String) : Walks d dir segments out ↔ out = walk d dir segments :=
  ⟨fun h => h.unique (walks_walk hd dir segments), fun h => h ▸ walks_walk hd dir segments⟩

/-- A directory `a` holding a file `f` and a link `loop` back up to the root. -/
def loopDisk : Disk := ⟨[(["a"], .dir), (["a", "loop"], .link ".."), (["a", "f"], .file [70])], []⟩

/-- The segments of `**/loop/*/f`. -/
def loopSegments : List Segment :=
  [.recursive, .literal "loop", .pattern ⟨[.anySequence]⟩, .literal "f"]

theorem loopDisk_proper : loopDisk.Proper := ⟨by decide, by decide⟩

theorem loop_walk_terminates :
    loopDisk.Proper ∧ Walks loopDisk "." loopSegments (walk loopDisk "." loopSegments) :=
  ⟨loopDisk_proper, (walk_terminates loopDisk_proper "." loopSegments _).2 rfl⟩

end FirmwareStamp.Join
