import Zerodisk.Backup.FtpDriver
import Mathlib.Data.List.Chain

/-!
# Clean paths, and the levels `mkdirs` walks through

`path.Join` cleans what it joins, and `mkdirs` walks the joined directory one
level at a time, joining each segment of `strings.Split(dir, "/")` onto the
level before. `path.Clean` keeps a stack of segments that every push keeps
clean, so its result splits into its segments, and walking them rebuilds it one
prefix at a time. Every level of the walk of a joined path is thus a path whose
own walk ends in it: the fact the driver's cache of known directories rests on.
-/

namespace Zerodisk
namespace Backup

/-! ## Clean segments -/

/-- A segment `path.Clean` keeps: not empty, without a slash, and not `.`. -/
structure KeptSegment (segment : Bytes) : Prop where
  /-- Not empty. -/
  nonempty : segment ≠ []
  /-- Without a slash. -/
  noSlash : slash ∉ segment
  /-- Not `.`. -/
  notDot : segment ≠ [dot]

theorem keptSegment_dotDot : KeptSegment [dot, dot] := ⟨by decide, by decide, by decide⟩

/-- The stack of segments `path.Clean` keeps, latest first: kept segments, and
below a `..` only `..`s. -/
structure CleanStack (stack : List Bytes) : Prop where
  /-- Every segment is kept. -/
  kept : ∀ segment ∈ stack, KeptSegment segment
  /-- Below a `..` is a `..`. -/
  dotsBelow : stack.Chain' fun above below => above = [dot, dot] → below = [dot, dot]

/-- The segments of a clean path, in order: kept segments, and before a `..`
only `..`s. -/
structure CleanSegments (segments : List Bytes) : Prop where
  /-- Every segment is kept. -/
  kept : ∀ segment ∈ segments, KeptSegment segment
  /-- Before a `..` is a `..`. -/
  dotsFirst : segments.Chain' fun before after => after = [dot, dot] → before = [dot, dot]

theorem CleanStack.reverse {kept : List Bytes} (clean : CleanStack kept) :
    CleanSegments kept.reverse :=
  ⟨fun segment member => clean.kept segment (List.mem_reverse.mp member),
    List.chain'_reverse.mpr clean.dotsBelow⟩

theorem CleanSegments.take {segments : List Bytes} (clean : CleanSegments segments) (n : Nat) :
    CleanSegments (segments.take n) :=
  ⟨fun segment member => clean.kept segment (List.mem_of_mem_take member), clean.dotsFirst.take n⟩

/-- No piece of a split holds what it was split on. -/
theorem not_of_mem_splitOnP {p : UInt8 → Bool} :
    ∀ {t piece : Bytes}, piece ∈ t.splitOnP p → ∀ c ∈ piece, p c = false
  | [], piece, member => by
    obtain rfl := List.mem_singleton.mp member
    exact fun _ => nofun
  | x :: xs, piece, member => by
    rw [List.splitOnP_cons] at member
    split_ifs at member with separator
    · rcases List.mem_cons.mp member with rfl | later
      · exact fun _ => nofun
      · exact not_of_mem_splitOnP later
    · obtain ⟨first, rest, split⟩ := List.exists_cons_of_ne_nil (List.splitOnP_ne_nil p xs)
      rw [split, List.modifyHead_cons] at member
      rcases List.mem_cons.mp member with rfl | later
      · intro c inPiece
        rcases List.mem_cons.mp inPiece with rfl | inFirst
        · simpa using separator
        · exact not_of_mem_splitOnP (split ▸ List.mem_cons_self _ _) c inFirst
      · exact not_of_mem_splitOnP (split ▸ List.mem_cons_of_mem _ later)

/-- No segment of `strings.Split(p, "/")` holds a slash. -/
theorem slash_not_mem_of_mem_splitSlash {p segment : Bytes} (member : segment ∈ splitSlash p) :
    slash ∉ segment :=
  fun inSegment => by simpa using not_of_mem_splitOnP member slash inSegment

/-! ## What `path.Clean` returns -/

/-- Every segment `path.Clean` pushes keeps its stack clean, and the stack of a
rooted path free of `..`. -/
theorem CleanStack.push {rooted : Bool} {kept : List Bytes} {segment : Bytes}
    (clean : CleanStack kept) (noDots : rooted = true → [dot, dot] ∉ kept) (noSlash : slash ∉ segment) :
    CleanStack (pushSegment rooted kept segment) ∧
      (rooted = true → [dot, dot] ∉ pushSegment rooted kept segment) := by
  unfold pushSegment
  by_cases skipped : segment = [] ∨ segment = [dot]
  · rw [if_pos skipped]
    exact ⟨clean, noDots⟩
  rw [if_neg skipped]
  by_cases dots : segment = [dot, dot]
  · rw [if_pos dots]
    subst dots
    cases kept with
    | nil =>
      cases rooted
      · show CleanStack [[dot, dot]] ∧ _
        exact ⟨⟨by simpa using keptSegment_dotDot, List.chain'_singleton _⟩, nofun⟩
      · show CleanStack [] ∧ _
        exact ⟨⟨nofun, List.chain'_nil⟩, fun _ => List.not_mem_nil _⟩
    | cons top rest =>
      dsimp only
      by_cases topDots : top = [dot, dot]
      · rw [if_pos topDots]
        refine ⟨⟨List.forall_mem_cons.mpr ⟨keptSegment_dotDot, clean.kept⟩,
          clean.dotsBelow.cons' fun _ member _ => Option.mem_some_iff.mp member ▸ topDots⟩,
          fun isRooted => absurd (topDots ▸ List.mem_cons_self _ _) (noDots isRooted)⟩
      · rw [if_neg topDots]
        exact ⟨⟨fun s member => clean.kept s (List.mem_cons_of_mem _ member), clean.dotsBelow.tail⟩,
          fun isRooted member => noDots isRooted (List.mem_cons_of_mem _ member)⟩
  · rw [if_neg dots]
    push_neg at skipped
    refine ⟨⟨List.forall_mem_cons.mpr ⟨⟨skipped.1, noSlash, skipped.2⟩, clean.kept⟩,
      clean.dotsBelow.cons' fun _ _ isDots => absurd isDots dots⟩, fun isRooted member => ?_⟩
    rcases List.mem_cons.mp member with same | below
    · exact dots same.symm
    · exact noDots isRooted below

/-- The stack `path.Clean` keeps over the segments of any path is clean, and
free of `..` for a rooted path. -/
theorem foldl_pushSegment_clean (rooted : Bool) :
    ∀ (segments kept : List Bytes), (∀ segment ∈ segments, slash ∉ segment) → CleanStack kept →
      (rooted = true → [dot, dot] ∉ kept) →
      CleanStack (segments.foldl (pushSegment rooted) kept) ∧
        (rooted = true → [dot, dot] ∉ segments.foldl (pushSegment rooted) kept)
  | [], _, _, clean, noDots => ⟨clean, noDots⟩
  | segment :: segments, _, noSlash, clean, noDots =>
    let pushed := clean.push noDots (noSlash segment (List.mem_cons_self _ _))
    foldl_pushSegment_clean rooted segments _
      (fun other member => noSlash other (List.mem_cons_of_mem _ member)) pushed.1 pushed.2

/-- The paths `path.Clean` returns. -/
inductive CleanPath : Bytes → Prop
  /-- `/` and segments without `..`. -/
  | rooted {segments : List Bytes} : CleanSegments segments → [dot, dot] ∉ segments →
      CleanPath (slash :: [slash].intercalate segments)
  /-- At least one segment. -/
  | relative {segments : List Bytes} : CleanSegments segments → segments ≠ [] →
      CleanPath ([slash].intercalate segments)
  /-- `.`. -/
  | dot : CleanPath [dot]

/-- What `path.Clean` returns is clean. -/
theorem cleanPath_clean (p : Bytes) : CleanPath (cleanPath p) := by
  obtain ⟨clean, noDots⟩ := foldl_pushSegment_clean (decide (p.head? = some slash)) (splitSlash p) []
    (fun _ member => slash_not_mem_of_mem_splitSlash member) ⟨nofun, List.chain'_nil⟩
    (fun _ => List.not_mem_nil _)
  unfold cleanPath
  by_cases rooted : p.head? = some slash
  · simp only [rooted, decide_True, if_true, List.cons_ne_nil, if_false] at noDots clean ⊢
    exact .rooted clean.reverse fun member => noDots trivial (List.mem_reverse.mp member)
  · simp only [rooted, decide_False, Bool.false_eq_true, if_false] at clean ⊢
    split_ifs with empty
    · exact .dot
    · refine .relative clean.reverse fun nil => empty ?_
      rw [nil]
      rfl

/-- What `path.Join` returns is clean, or empty when both elements are. -/
theorem joinPath_clean (a b : Bytes) : joinPath a b = [] ∨ CleanPath (joinPath a b) := by
  unfold joinPath
  split_ifs
  · exact .inl rfl
  all_goals exact .inr (cleanPath_clean _)

/-! ## Clean relative paths -/

theorem intercalate_cons_cons (s t : Bytes) (rest : List Bytes) :
    [slash].intercalate (s :: t :: rest) = s ++ slash :: [slash].intercalate (t :: rest) := by
  simp [List.intercalate, List.intersperse_cons_cons]

theorem intercalate_snoc (s : Bytes) :
    ∀ {pre : List Bytes}, pre ≠ [] →
      [slash].intercalate (pre ++ [s]) = [slash].intercalate pre ++ slash :: s
  | [_], _ => by simp [List.intercalate]
  | first :: second :: rest, _ => by
    rw [List.cons_append, List.cons_append, intercalate_cons_cons, ← List.cons_append,
      intercalate_snoc s (List.cons_ne_nil _ _), intercalate_cons_cons]
    simp

theorem intercalate_ne_nil {first : Bytes} (nonempty : first ≠ []) (rest : List Bytes) :
    [slash].intercalate (first :: rest) ≠ [] ∧
      ([slash].intercalate (first :: rest)).head? = first.head? := by
  cases rest with
  | nil => simpa [List.intercalate] using nonempty
  | cons second rest =>
    rw [intercalate_cons_cons]
    exact ⟨by simp [nonempty], List.head?_append_of_ne_nil _ nonempty⟩

/-- Splitting a clean relative path gives its segments back. -/
theorem splitSlash_intercalate {segments : List Bytes} (clean : CleanSegments segments)
    (nonempty : segments ≠ []) : splitSlash ([slash].intercalate segments) = segments :=
  List.splitOn_intercalate _ slash (fun segment member => (clean.kept segment member).noSlash) nonempty

/-- `path.Clean` keeps every segment of a clean path. -/
theorem foldl_pushSegment_of_clean {segments : List Bytes} (clean : CleanSegments segments) :
    segments.foldl (pushSegment false) [] = segments.reverse := by
  induction segments using List.reverseRecOn with
  | nil => rfl
  | append_singleton pre segment ih =>
    obtain ⟨preChain, -, joint⟩ := List.chain'_append.mp clean.dotsFirst
    have kept := clean.kept segment (by simp)
    rw [List.foldl_append, ih ⟨fun s member => clean.kept s (by simp [member]), preChain⟩,
      List.reverse_append, List.foldl_cons, List.foldl_nil]
    have notSkipped : ¬ (segment = [] ∨ segment = [dot]) := by
      rintro (empty | isDot)
      exacts [kept.nonempty empty, kept.notDot isDot]
    simp only [pushSegment, if_neg notSkipped, List.reverse_singleton, List.singleton_append]
    by_cases dots : segment = [dot, dot]
    · rw [if_pos dots]
      cases topped : pre.reverse with
      | nil => rfl
      | cons top rest =>
        have last : pre.getLast? = some top := by rw [← List.head?_reverse, topped]; rfl
        exact if_pos (joint top last segment rfl dots)
    · rw [if_neg dots]

/-- `path.Clean` leaves a clean relative path as it is. -/
theorem cleanPath_intercalate {segments : List Bytes} (clean : CleanSegments segments)
    (nonempty : segments ≠ []) :
    cleanPath ([slash].intercalate segments) = [slash].intercalate segments := by
  obtain ⟨first, rest, rfl⟩ := List.exists_cons_of_ne_nil nonempty
  have firstKept := clean.kept first (List.mem_cons_self _ _)
  obtain ⟨joined, head⟩ := intercalate_ne_nil firstKept.nonempty rest
  have notRooted : ¬ ([slash].intercalate (first :: rest)).head? = some slash := by
    rw [head]
    intro isSlash
    exact firstKept.noSlash (List.mem_of_mem_head? isSlash)
  unfold cleanPath
  simp only [notRooted, decide_False, Bool.false_eq_true, if_false,
    splitSlash_intercalate clean nonempty, foldl_pushSegment_of_clean clean, List.reverse_reverse]
  exact if_neg joined

/-- Joining a segment onto a prefix of a clean path gives the longer prefix. -/
theorem joinPath_intercalate_snoc {pre : List Bytes} {segment : Bytes}
    (clean : CleanSegments (pre ++ [segment])) :
    joinPath ([slash].intercalate pre) segment = [slash].intercalate (pre ++ [segment]) := by
  have kept := clean.kept segment (by simp)
  rcases eq_or_ne pre [] with rfl | nonempty
  · simpa [joinPath, kept.nonempty, List.intercalate] using
      cleanPath_intercalate clean (List.cons_ne_nil _ _)
  · obtain ⟨first, rest, rfl⟩ := List.exists_cons_of_ne_nil nonempty
    have firstKept := clean.kept first (by simp)
    rw [joinPath, if_neg (intercalate_ne_nil firstKept.nonempty rest).1, if_neg kept.nonempty,
      ← intercalate_snoc segment nonempty]
    exact cleanPath_intercalate clean (by simp)

/-- Walking the segments of a clean relative path from the empty path
rebuilds it. -/
theorem foldl_joinPath_clean {segments : List Bytes} (clean : CleanSegments segments) :
    segments.foldl joinPath [] = [slash].intercalate segments := by
  induction segments using List.reverseRecOn with
  | nil => rfl
  | append_singleton pre segment ih =>
    obtain ⟨preChain, -, -⟩ := List.chain'_append.mp clean.dotsFirst
    rw [List.foldl_append, ih ⟨fun s member => clean.kept s (by simp [member]), preChain⟩,
      List.foldl_cons, List.foldl_nil, joinPath_intercalate_snoc clean]

/-! ## The levels `mkdirs` walks through -/

/-- The levels the loop of `mkdirs` walks through from `pwd`: each segment
joined onto the level before. -/
def walkLevels : Bytes → List Bytes → List Bytes
  | _, [] => []
  | pwd, segment :: segments => joinPath pwd segment :: walkLevels (joinPath pwd segment) segments

/-- The levels `mkdirs` walks through for the directory `dir`. -/
def levels (dir : Bytes) : List Bytes := walkLevels [] (splitSlash dir)

/-- The level the loop of `mkdirs` ends in for the directory `dir`. -/
def levelsEnd (dir : Bytes) : Bytes := (splitSlash dir).foldl joinPath []

theorem splitSlash_ne_nil (dir : Bytes) : splitSlash dir ≠ [] := List.splitOnP_ne_nil _ _

theorem splitSlash_slash_cons (rest : Bytes) : splitSlash (slash :: rest) = [] :: splitSlash rest := by
  simp [splitSlash, List.splitOn, List.splitOnP_cons]

/-- A walk ends in its last level. -/
theorem foldl_mem_walkLevels :
    ∀ {pwd : Bytes} {segments : List Bytes}, segments ≠ [] → segments.foldl joinPath pwd ∈ walkLevels pwd segments
  | _, [], nonempty => absurd rfl nonempty
  | _, [_], _ => List.mem_singleton_self _
  | _, _ :: _ :: _, _ => List.mem_cons_of_mem _ (foldl_mem_walkLevels (List.cons_ne_nil _ _))

theorem levelsEnd_mem_levels (dir : Bytes) : levelsEnd dir ∈ levels dir :=
  foldl_mem_walkLevels (splitSlash_ne_nil dir)

/-- A level of a walk is where the walk of the segments up to it ends, and
that walk passes through the levels before it. -/
theorem walkLevels_eq_append :
    ∀ {pwd : Bytes} {segments pre post : List Bytes} {l : Bytes},
      walkLevels pwd segments = pre ++ l :: post →
        walkLevels pwd (segments.take (pre.length + 1)) = pre ++ [l] ∧
          (segments.take (pre.length + 1)).foldl joinPath pwd = l
  | _, [], pre, _, _, walked => by cases pre <;> cases walked
  | _, _ :: _, [], _, _, walked => by
    obtain ⟨rfl, -⟩ := List.cons.inj walked
    exact ⟨rfl, rfl⟩
  | _, _ :: _, _ :: pre, _, _, walked => by
    obtain ⟨rfl, rest⟩ := List.cons.inj walked
    obtain ⟨walkFront, foldFront⟩ := walkLevels_eq_append rest
    exact ⟨congrArg _ walkFront, foldFront⟩

/-- Every level of the walk of a clean relative path is a path whose own walk
ends in it and passes through the levels before it. -/
theorem level_of_clean_walk {segments pre post : List Bytes} {l : Bytes}
    (clean : CleanSegments segments) (walked : walkLevels [] segments = pre ++ l :: post) :
    levelsEnd l = l ∧ levels l = pre ++ [l] := by
  obtain ⟨walkFront, foldFront⟩ := walkLevels_eq_append walked
  have frontClean := clean.take (pre.length + 1)
  have frontNonempty : segments.take (pre.length + 1) ≠ [] := by
    intro empty
    rw [empty] at walkFront
    cases pre <;> cases walkFront
  rw [foldl_joinPath_clean frontClean] at foldFront
  subst foldFront
  rw [levelsEnd, levels, splitSlash_intercalate frontClean frontNonempty,
    foldl_joinPath_clean frontClean]
  exact ⟨rfl, walkFront⟩

theorem levels_nil : levels [] = [[]] := rfl

theorem eq_of_singleton_eq_append {x l : Bytes} {pre post : List Bytes} (split : [x] = pre ++ l :: post) :
    pre = [] ∧ l = x := by
  cases pre with
  | nil => exact ⟨rfl, (List.cons.inj split).1.symm⟩
  | cons _ pre => simp at split

theorem levels_dot : levels [dot] = [[dot]] := by decide

theorem levelsEnd_dot : levelsEnd [dot] = [dot] := by decide

/-- Every level of the walk of a path `path.Join` returns is a path whose own
walk ends in it and passes only through the levels before it. -/
theorem levels_of_level {dir l : Bytes} {pre post : List Bytes} (joined : dir = [] ∨ CleanPath dir)
    (walked : levels dir = pre ++ l :: post) :
    levelsEnd l = l ∧ ∀ l' ∈ levels l, l' ∈ pre ∨ l' = l := by
  have ofEmpty : l = [] → levelsEnd l = l ∧ ∀ l' ∈ levels l, l' ∈ pre ∨ l' = l := by
    rintro rfl
    exact ⟨rfl, fun l' member => .inr (List.mem_singleton.mp member)⟩
  have ofClean : ∀ {segments pre' : List Bytes}, CleanSegments segments → (∀ l' ∈ pre', l' ∈ pre) →
      walkLevels [] segments = pre' ++ l :: post → levelsEnd l = l ∧ ∀ l' ∈ levels l, l' ∈ pre ∨ l' = l :=
    fun clean before walked' =>
      let ⟨fixed, own⟩ := level_of_clean_walk clean walked'
      ⟨fixed, fun l' member => by
        rw [own, List.mem_append, List.mem_singleton] at member
        exact member.imp_left (before l')⟩
  rcases joined with rfl | joined
  · rw [levels_nil] at walked
    exact ofEmpty (eq_of_singleton_eq_append walked).2
  cases joined with
  | dot =>
    rw [levels_dot] at walked
    obtain ⟨rfl, rfl⟩ := eq_of_singleton_eq_append walked
    exact ⟨levelsEnd_dot, fun l' member => .inr (by simpa [levels_dot] using member)⟩
  | relative clean nonempty =>
    rw [levels, splitSlash_intercalate clean nonempty] at walked
    exact ofClean clean (fun _ => id) walked
  | @rooted segments clean _ =>
    rw [levels, splitSlash_slash_cons, walkLevels] at walked
    cases pre with
    | nil => exact ofEmpty (List.cons.inj walked).1.symm
    | cons first pre =>
      have walked' := (List.cons.inj walked).2
      rcases eq_or_ne segments [] with rfl | nonempty
      · exact ofEmpty (eq_of_singleton_eq_append walked').2
      · rw [splitSlash_intercalate clean nonempty] at walked'
        exact ofClean clean (fun _ => List.mem_cons_of_mem first) walked'

end Backup
end Zerodisk
