import ImageHeader.Proofs.FileTree.Resolving
import ImageHeader.Proofs.Path.Parts
import Mathlib.Logic.Relation

/-!
Respellings: what can be put into a path or taken out of it without a change of the place that it spells.

Each single change keeps the place because bytes lead on from where the bytes before them have led. There are no other
changes that do: whatever a path is, it can be cleared of all that leads nowhere, from the front to the end, and what is
left then is the path of the place itself.
-/

namespace ImageHeader.Path

open Relation (EqvGen)

/-- Bytes between two slashes that lead nowhere: a dot, or a name and the way back out of it. -/
inductive Idle : List UInt8 → Prop
  | stay : Idle [dot]
  | back {name : Name} (proper : Proper name) : Idle (name ++ [slash, dot, dot])

/-- One path becomes another one by one thing that is put into it. -/
inductive Respells : Path → Path → Prop
  /-- Idle bytes before a part: behind a slash, that of the root too, or in front of a path that is relative. -/
  | before {front rest idle : List UInt8} (idles : Idle idle)
      (begins : front.getLast? = some slash ∨ front = [] ∧ rest.head? ≠ some slash) :
      Respells ⟨front ++ rest⟩ ⟨front ++ (idle ++ slash :: rest)⟩
  /-- Idle bytes behind a part: before a slash or at the end. -/
  | behind {front rest idle : List UInt8} (idles : Idle idle) (some_ : front ≠ [])
      (ends : rest = [] ∨ rest.head? = some slash) :
      Respells ⟨front ++ rest⟩ ⟨front ++ slash :: (idle ++ rest)⟩
  /-- Idle bytes between two slashes, or between a slash and the end. -/
  | between {front rest idle : List UInt8} (idles : Idle idle) (begins : front.getLast? = some slash)
      (ends : rest = [] ∨ rest.head? = some slash) : Respells ⟨front ++ rest⟩ ⟨front ++ (idle ++ rest)⟩
  /-- A slash beside another one. -/
  | doubled (front rest : List UInt8) : Respells ⟨front ++ slash :: rest⟩ ⟨front ++ slash :: slash :: rest⟩
  /-- A slash at the end. -/
  | trailing {front : List UInt8} (some_ : front ≠ []) : Respells ⟨front⟩ ⟨front ++ [slash]⟩
  /-- The way up from the root. -/
  | aboveRoot (rest : List UInt8) : Respells ⟨slash :: rest⟩ ⟨slash :: ([dot, dot] ++ slash :: rest)⟩

/-- Paths that become each other by things that are put in or taken out, any number of times. -/
def Alike (path other : Path) : Prop := EqvGen Respells path other

/-- The same where a path may also be joined to a directory. -/
def AlikeFrom (directory path other : Path) : Prop :=
  EqvGen (fun path other => Respells path other ∨ other = directory.join path) path other

variable {here : Location} {front rest idle : List UInt8} {path other third directory : Path}

/-- Changes follow each other. -/
theorem Alike.trans (first : Alike path other) (second : Alike other third) : Alike path third :=
  EqvGen.trans _ _ _ first second

/-- What was put in can be taken out. -/
theorem Respells.taken (respells : Respells path other) : Alike other path :=
  .symm _ _ (.rel _ _ respells)

/-- Joining to a directory need not be done. -/
theorem Alike.alikeFrom (alike : Alike path other) (directory : Path) : AlikeFrom directory path other :=
  EqvGen.mono (fun _ _ respells => .inl respells) _ _ alike

/-- What each single change keeps is kept by any number of them. -/
theorem kept_of_eqvGen {α : Type} {changes : Path → Path → Prop} (kept : Path → α)
    (keeps : ∀ path other, changes path other → kept path = kept other) (changed : EqvGen changes path other) :
    kept path = kept other := by
  induction changed with
  | rel path other change => exact keeps path other change
  | refl _ => rfl
  | symm _ _ _ ih => exact ih.symm
  | trans _ _ _ _ _ first second => exact first.trans second

section Leading

/-- Where bytes lead from a place, as a path that does not start at the root or as the rest of any path. -/
def led (bytes : List UInt8) (here : Location) : Location :=
  ((bytes.splitOn slash).filterMap step?).foldl Step.move here

/-- The place that a path spells is where its bytes lead. -/
theorem spelled_eq_led (path : Path) (here : Location) : path.spelled here = led path.bytes (path.origin here) :=
  foldl_steps path (path.origin here)

/-- No bytes lead nowhere. -/
@[simp]
theorem led_nil (here : Location) : led [] here = here := by
  simp [led, step?]

/-- Behind a slash bytes lead on from where the bytes before it lead. -/
@[simp]
theorem led_append_slash (front rest : List UInt8) (here : Location) :
    led (front ++ slash :: rest) here = led rest (led front here) := by
  simp [led, List.splitOn_append_cons_self]

/-- A slash at the front leads nowhere. -/
@[simp]
theorem led_slash (rest : List UInt8) (here : Location) : led (slash :: rest) here = led rest here := by
  have split := led_append_slash [] rest here
  rwa [List.nil_append, led_nil] at split

/-- Two dots lead up. -/
@[simp]
theorem led_up (here : Location) : led [dot, dot] here = here.dropLast := by
  have piece : [dot, dot].splitOn slash = [[dot, dot]] := by decide
  rw [led, piece]
  simp [step?, Step.move, dot]

/-- Idle bytes lead nowhere. -/
theorem Idle.led_eq (idles : Idle idle) (here : Location) : led idle here = here := by
  cases idles with
  | stay =>
    have piece : [dot].splitOn slash = [[dot]] := by decide
    simp [led, piece, step?, Step.move]
  | @back name proper =>
    -- The name is entered, and left again.
    have entered : led name here = here ++ [name] := by
      simp [led, List.splitOn_eq_singleton proper.closed, proper.step, Step.move]
    rw [led_append_slash, entered, led_up, List.dropLast_concat]

/-- Whatever stands behind bytes that end with a slash is led from where they lead. -/
theorem led_append (begins : front.getLast? = some slash) (rest : List UInt8) (here : Location) :
    led (front ++ rest) here = led rest (led front here) := by
  obtain ⟨before, rfl⟩ := List.getLast?_eq_some_iff.mp begins
  simp

/-- Bytes that are none or begin with a slash are led from where those before them lead. -/
theorem led_append_of_head (ends : rest = [] ∨ rest.head? = some slash) (front : List UInt8) (here : Location) :
    led (front ++ rest) here = led rest (led front here) := by
  obtain rfl | head := ends
  · simp
  · obtain ⟨more, rfl⟩ := List.head?_eq_some_iff.mp head
    simp

/-- A path that is joined to a directory spells what it spells from the place of the directory. -/
theorem spelled_join (directory path : Path) (here : Location) :
    (directory.join path).spelled here = path.spelled (directory.spelled here) := by
  cases absolute : path.isAbsolute with
  | true =>
    -- A path from the root stays as it is, and spells the same from everywhere.
    simp [join, spelled, origin, absolute]
  | false =>
    have alike : (directory.join path).isAbsolute = directory.isAbsolute := isAbsolute_join_relative absolute
    have empty : step? [] = none := by simp [step?]
    have joined : (directory.join path).pieces.filterMap step? =
        directory.pieces.filterMap step? ++ path.pieces.filterMap step? := filterMap_pieces_join absolute empty
    simp only [spelled, foldl_steps, joined, List.foldl_append, origin, alike, absolute]
    simp

end Leading

section Keeping

/-- How bytes begin is not changed by what stands behind them. -/
theorem isAbsolute_append (some_ : front ≠ []) (rest : List UInt8) :
    isAbsolute ⟨front ++ rest⟩ = isAbsolute ⟨front⟩ := by
  obtain ⟨first, more, rfl⟩ := List.exists_cons_of_ne_nil some_
  rfl

/-- Idle bytes do not begin with a slash, nor does what they are put before. -/
theorem Idle.isAbsolute_append (idles : Idle idle) (rest : List UInt8) : isAbsolute ⟨idle ++ rest⟩ = false := by
  cases idles with
  | stay => simp [isAbsolute, dot, slash]
  | @back name proper =>
    rw [List.append_assoc, Path.isAbsolute_append proper.ne_nil]
    exact proper.isAbsolute_eq

/-- A path and its respelling both start at the root, or neither does. -/
theorem Respells.isAbsolute_eq (respells : Respells path other) : path.isAbsolute = other.isAbsolute := by
  -- What counts is whether the first byte is a slash, and no case changes that.
  cases respells with
  | before idles begins =>
    obtain begins | ⟨rfl, relative⟩ := begins
    · have some_ := List.ne_nil_of_mem (List.mem_of_getLast? begins)
      rw [isAbsolute_append some_, isAbsolute_append some_]
    · rw [List.nil_append, List.nil_append, idles.isAbsolute_append]
      simpa [isAbsolute] using relative
  | behind _ some_ _ => rw [isAbsolute_append some_, isAbsolute_append some_]
  | between _ begins _ =>
    have some_ := List.ne_nil_of_mem (List.mem_of_getLast? begins)
    rw [isAbsolute_append some_, isAbsolute_append some_]
  | doubled front rest => cases front <;> rfl
  | trailing some_ => rw [isAbsolute_append some_]
  | aboveRoot rest => rfl

/-- A path and its respelling spell the same place, wherever they are spelled from. -/
theorem Respells.spelled_eq (respells : Respells path other) (here : Location) :
    path.spelled here = other.spelled here := by
  rw [spelled_eq_led, spelled_eq_led, origin, origin, respells.isAbsolute_eq]
  generalize begun : (if other.isAbsolute = true then [] else here) = start
  cases respells with
  | before idles begins =>
    obtain begins | ⟨rfl, _⟩ := begins
    · rw [led_append begins, led_append begins, led_append_slash, idles.led_eq]
    · rw [List.nil_append, List.nil_append, led_append_slash, idles.led_eq]
  | behind idles _ ends => rw [led_append_of_head ends, led_append_slash, led_append_of_head ends, idles.led_eq]
  | between idles begins ends =>
    rw [led_append begins, led_append begins, led_append_of_head ends, idles.led_eq]
  | doubled front rest => simp
  | trailing _ => simp
  | aboveRoot rest =>
    -- Above the root there is the root itself.
    obtain rfl : [] = start := begun
    rw [led_slash, led_slash, led_append_slash, led_up, List.dropLast_nil]

/-- Paths that are alike spell the same place. -/
theorem Alike.spelled_eq (alike : Alike path other) (here : Location) : path.spelled here = other.spelled here :=
  kept_of_eqvGen (·.spelled here) (fun _ _ respells => respells.spelled_eq here) alike

/-- A path that starts at the root spells the same place from everywhere. -/
theorem spelled_of_isAbsolute (absolute : path.isAbsolute = true) (here : Location) :
    path.spelled here = path.spelled [] := by
  simp [spelled, origin, absolute]

/-- Paths that are alike from a directory spell the same place from there. -/
theorem AlikeFrom.spelled_eq (alike : AlikeFrom directory path other) (absolute : directory.isAbsolute = true) :
    path.spelled (directory.spelled []) = other.spelled (directory.spelled []) := by
  refine kept_of_eqvGen (·.spelled (directory.spelled [])) (fun path other change => ?_) alike
  obtain respells | rfl := change
  · exact respells.spelled_eq _
  · -- The place of the directory is the same, wherever it is spelled from.
    rw [spelled_join, spelled_of_isAbsolute absolute (directory.spelled [])]

end Keeping

section Clearing

/-- Idle bytes can be put behind any slash. -/
theorem Idle.respells (idles : Idle idle) (front rest : List UInt8) :
    Respells ⟨front ++ slash :: rest⟩ ⟨front ++ slash :: (idle ++ slash :: rest)⟩ := by
  have begins : (front ++ [slash]).getLast? = some slash := List.getLast?_concat
  have behind : Respells ⟨front ++ [slash] ++ rest⟩ ⟨front ++ [slash] ++ (idle ++ slash :: rest)⟩ :=
    .before idles (.inl begins)
  simpa using behind

/-- A piece behind the path of a place goes on with the path or is taken out, with the name that it undoes. -/
theorem alike_piece (below : ∀ name ∈ here, Proper name) (piece rest : List UInt8) :
    Alike ⟨here.flatMap (fun name => slash :: name) ++ slash :: (piece ++ slash :: rest)⟩
      ⟨((step? piece).toList.foldl Step.move here).flatMap (fun name => slash :: name) ++ slash :: rest⟩ := by
  by_cases none : piece = []
  · subst none
    have taken := (Respells.doubled (here.flatMap fun name => slash :: name) rest).taken
    simpa [step?] using taken
  by_cases single : piece = [dot]
  · subst single
    have taken := (Idle.stay.respells (here.flatMap fun name => slash :: name) rest).taken
    simpa [step?, Step.move] using taken
  by_cases double : piece = [dot, dot]
  · subst double
    have up : step? [dot, dot] = some .up := by decide
    rcases here.eq_nil_or_concat with rfl | ⟨above, name, rfl⟩
    · have taken := (Respells.aboveRoot rest).taken
      simpa [up, Step.move] using taken
    · -- The last name of the place goes with the way back from it.
      rw [List.concat_eq_append] at below ⊢
      have proper : Proper name := below name (by simp)
      have taken := ((Idle.back proper).respells (above.flatMap fun name => slash :: name) rest).taken
      simpa [up, Step.move] using taken
  · -- Any other piece is a name.
    have enter : step? piece = some (.enter piece) := by simp [step?, none, single, double]
    have same : Alike ⟨here.flatMap (fun name => slash :: name) ++ slash :: (piece ++ slash :: rest)⟩ _ := .refl _
    simpa [enter, Step.move] using same

/-- All pieces behind the path of a place are dealt with one after the other, up to the slash at the end. -/
theorem alike_pieces (below : ∀ name ∈ here, Proper name) (pieces : List Name)
    (closed : ∀ piece ∈ pieces, slash ∉ piece) :
    Alike ⟨here.flatMap (fun name => slash :: name) ++ slash :: pieces.flatMap (· ++ [slash])⟩
      ⟨((pieces.filterMap step?).foldl Step.move here).flatMap (fun name => slash :: name) ++ [slash]⟩ := by
  -- The induction is on the pieces; the place goes with each of them, and its names can always be spelled.
  induction pieces generalizing here with
  | nil => exact .refl _
  | cons piece rest ih =>
    have first := alike_piece below piece (rest.flatMap (· ++ [slash]))
    have further : ∀ name ∈ (step? piece).toList.foldl Step.move here, Proper name := by
      refine proper_of_mem_moves (fun name member => ?_) below
      exact proper_of_step? (closed piece List.mem_cons_self) (Option.mem_toList.mp member)
    have later := ih further fun other member => closed other (List.mem_cons_of_mem _ member)
    have split : (piece :: rest).filterMap step? = (step? piece).toList ++ rest.filterMap step? := by
      cases step : step? piece <;> simp [step]
    rw [split, List.foldl_append]
    simpa using first.trans later

/-- A slash behind each piece puts bytes together again, with a slash at their end. -/
theorem flatMap_splitOn (bytes : List UInt8) : (bytes.splitOn slash).flatMap (· ++ [slash]) = bytes ++ [slash] := by
  induction bytes with
  | nil => rfl
  | cons first rest ih =>
    rw [List.splitOn_cons_eq_if_modifyHead]
    cases cut : rest.splitOn slash with
    | nil => exact absurd cut (List.splitOn_ne_nil slash rest)
    | cons piece more =>
      rw [cut] at ih
      split
      · -- Before a slash there is an empty piece.
        rename_i same
        obtain rfl : first = slash := by simpa using same
        simpa using ih
      · simpa using ih

/-- A path that starts at the root is alike to the path of the place that it spells. -/
theorem alike_ofLocation (absolute : path.isAbsolute = true) : Alike path (ofLocation (path.spelled [])) := by
  obtain ⟨bytes⟩ := path
  obtain ⟨tail, rfl⟩ : ∃ tail, bytes = slash :: tail := by
    cases bytes with
    | nil => cases absolute
    | cons first rest => exact ⟨rest, by simpa [isAbsolute] using absolute⟩
  -- A slash is put to the end, so that each piece has one behind it.
  have ended : Alike ⟨slash :: tail⟩ ⟨slash :: tail ++ [slash]⟩ := .rel _ _ (.trailing (by simp))
  have cleared := @alike_pieces [] (by simp) (tail.splitOn slash) fun _ => slash_notMem_of_mem_splitOn
  rw [flatMap_splitOn, ← led] at cleared
  have place : spelled ⟨slash :: tail⟩ [] = led tail [] := by
    rw [spelled_eq_led, led_slash, origin, ite_self]
  rw [place]
  -- In the end the slash is taken away again, but for the one of the root.
  by_cases root : led tail [] = []
  · rw [root] at cleared ⊢
    exact ended.trans cleared
  · have some_ : (ofLocation (led tail [])).bytes ≠ [] := by
      rw [bytes_ofLocation root]
      simpa using List.exists_mem_of_ne_nil _ root
    rw [← bytes_ofLocation root] at cleared
    exact (ended.trans cleared).trans (Respells.trailing some_).taken

/-- From a directory that starts at the root paths are alike exactly if they spell the same place. -/
theorem alikeFrom_iff (absolute : directory.isAbsolute = true) :
    AlikeFrom directory path other ↔ path.spelled (directory.spelled []) = other.spelled (directory.spelled []) := by
  -- Joined to the directory, each path is alike to the path of the place that it spells.
  have cleared (path : Path) : AlikeFrom directory path (ofLocation (path.spelled (directory.spelled []))) := by
    have joined : AlikeFrom directory path (directory.join path) := .rel _ _ (.inr rfl)
    have rooted : (directory.join path).isAbsolute = true := by
      cases own : path.isAbsolute with
      | true => simp [join, own]
      | false => rw [isAbsolute_join_relative own, absolute]
    have alike := (alike_ofLocation rooted).alikeFrom directory
    rw [spelled_join] at alike
    exact EqvGen.trans _ _ _ joined alike
  refine ⟨fun alike => alike.spelled_eq absolute, fun same => ?_⟩
  have back := cleared other
  rw [← same] at back
  exact EqvGen.trans _ _ _ (cleared path) (EqvGen.symm _ _ back)

end Clearing

end ImageHeader.Path
