import Mathlib
import TreeOutline.Files.Watch

namespace TreeOutline

/-!
# A watch beside a writer

Each call of a watch looks at the file twice, and a writer may replace it before, between and after
the looks.

* `Version` — what the writer puts in the place of the file; `Version.after` — what stands after
  some writes.
* `Watched`, `Watched.read`, `Watched.poll` — the file, its watch and the text returned last, and a
  call with the writes around its looks.
* `Watched.Caught` — the invariant: a watch that has noted the time of the file returned its text,
  unless it noted that time when it read.
* `Caught.poll`, `Caught.run` — each poll keeps it, and so a run does.
* `Watched.last_text_is_current_iff` — which runs end with the text of the file.
* `Watched.overtaken_read` — one that does not: `read` looks at the text first, so the time that it
  notes can be that of a later text.
-/

/-- What a writer puts in the place of the file: a text in bytes, and the time of the change. -/
structure Version where
  contents : Bytes
  text : String
  modified : Int
  decodes : decodeText? contents = some text

namespace Version

/-- What a look shows while this version stands. -/
def look (version : Version) : Look := .ok ⟨.file version.contents, version.modified⟩

/-- What stands after some writes. -/
def after : (version : Version) → (writes : List Version) → Version
  | version, [] => version
  | _, next :: rest => next.after rest

/-- A look at a version finds its text. -/
theorem look_text (version : Version) : version.look.text = .ok version.text := by
  show textOfBytes version.contents = .ok version.text
  unfold textOfBytes
  rw [version.decodes]

/-- Writes may be grouped: the last of the second group counts, or else that of the first. -/
theorem after_append (version : Version) (first second : List Version) :
    version.after (first ++ second) = (version.after first).after second := by
  induction first generalizing version with
  | nil => rfl
  | cons next rest ih => exact ih next

/-- After some writes a file holds one of the versions written, or the first one. -/
theorem after_mem (version : Version) (writes : List Version) :
    version.after writes ∈ version :: writes := by
  induction writes generalizing version with
  | nil => exact List.mem_cons_self
  | cons next rest ih => exact List.mem_cons_of_mem _ (ih next)

/-- What stands after some writes has a time of before or a time of theirs. -/
theorem after_modified_mem {version : Version} {used : List Int} (h : version.modified ∈ used)
    (writes : List Version) : (version.after writes).modified ∈ used ++ writes.map modified := by
  rcases List.mem_cons.1 (version.after_mem writes) with heq | hwritten
  · rw [heq]
    exact List.mem_append_left _ h
  · exact List.mem_append_right _ (List.mem_map_of_mem hwritten)

/-- When all times are new, no time that was used before stands after a write. -/
theorem writes_eq_nil (version : Version) {writes : List Version} {used : List Int}
    (fresh : (used ++ writes.map modified).Nodup) (h : (version.after writes).modified ∈ used) :
    writes = [] := by
  cases writes with
  | nil => rfl
  | cons next rest =>
    have hnew : (next.after rest).modified ∈ (next :: rest).map modified :=
      List.mem_map_of_mem (next.after_mem rest)
    exact absurd hnew (List.disjoint_of_nodup_append fresh h)

end Version

/-! ### Calls -/

namespace FileWatch

variable {watch : FileWatch} {first second : Look} {file : FileState} {text : String}

/-- A read delivers the text of the first look but notes the time of the second. -/
theorem read_of_text (htext : first.text = .ok text) :
    watch.read first second = (.ok text, ⟨second.toOption.map FileState.modified⟩) := by
  unfold read
  rw [htext]

/-- A poll that finds the noted time delivers nothing and keeps the watch. -/
theorem poll_of_noted (h : watch.modified = some file.modified) :
    watch.poll (.ok file) second = (.ok none, watch) :=
  if_pos h

/-- A poll that finds another time delivers the second look's text and notes the first look's time.
-/
theorem poll_of_not_noted (h : watch.modified ≠ some file.modified)
    (htext : second.text = .ok text) :
    watch.poll (.ok file) second = (.ok (some text), ⟨some file.modified⟩) := by
  refine (if_neg h).trans ?_
  rw [htext]

end FileWatch

/-- What is written before the first look of a call, and what between its looks. -/
structure Call where
  before : List Version
  between : List Version

/-- All that is written up to the last look of a call. -/
def Call.writes (call : Call) : List Version := call.before ++ call.between

/-- A file, a watch on it, and the text that the watch returned last. -/
structure Watched where
  file : Version
  watch : FileWatch
  last : Option String

namespace Watched

/-- What the first look of a call shows. -/
def first (w : Watched) (call : Call) : Version := w.file.after call.before

/-- What the second look of a call shows. -/
def second (w : Watched) (call : Call) : Version := (w.first call).after call.between

/-- Reads the file. -/
def read (w : Watched) (call : Call) : Watched :=
  let (answer, watch) := w.watch.read (w.first call).look (w.second call).look
  ⟨w.second call, watch, answer.toOption.or w.last⟩

/-- Polls the file. -/
def poll (w : Watched) (call : Call) : Watched :=
  let (answer, watch) := w.watch.poll (w.first call).look (w.second call).look
  ⟨w.second call, watch, answer.toOption.join.or w.last⟩

/-- Polls the file again and again. -/
def run (w : Watched) (calls : List Call) : Watched := calls.foldl poll w

/-- The second look of a call finds what its writes have left. -/
theorem second_eq (w : Watched) (call : Call) : w.second call = w.file.after call.writes :=
  (w.file.after_append _ _).symm

/-- A read returns what its first look shows and notes the time of what its second look shows. -/
theorem read_eq (w : Watched) (call : Call) :
    w.read call =
      ⟨w.second call, ⟨some (w.second call).modified⟩, some (w.first call).text⟩ := by
  unfold read
  rw [FileWatch.read_of_text (w.first call).look_text]
  rfl

/-- A call at the noted time only lets the writes happen. -/
theorem poll_of_noted {w : Watched} {call : Call}
    (h : w.watch.modified = some (w.first call).modified) :
    w.poll call = ⟨w.second call, w.watch, w.last⟩ := by
  unfold poll
  rw [Version.look, FileWatch.poll_of_noted h]
  rfl

/-- A poll that sees another time notes it, and returns what its second look shows. -/
theorem poll_of_not_noted {w : Watched} {call : Call}
    (h : w.watch.modified ≠ some (w.first call).modified) :
    w.poll call =
      ⟨w.second call, ⟨some (w.first call).modified⟩, some (w.second call).text⟩ := by
  unfold poll
  rw [Version.look, FileWatch.poll_of_not_noted h (w.second call).look_text]
  rfl

/-! ### The invariant -/

/-- The times of the file and of the watch are among those used so far.  A watch that has noted the
time of the file returned the text of the file, unless this is the time `early`. -/
structure Caught (early : Int) (used : List Int) (w : Watched) : Prop where
  noted : ∀ time ∈ w.watch.modified, time ∈ used
  stands : w.file.modified ∈ used
  caught : w.watch.modified = some w.file.modified →
    w.last = some w.file.text ∨ w.file.modified = early

variable {w : Watched} {early : Int} {used : List Int}

/-- A read notes a time after its look at the text, so this is the one that may be early. -/
theorem caught_read (w : Watched) (call : Call) :
    (w.read call).Caught (w.second call).modified
      (w.file.modified :: call.writes.map Version.modified) := by
  have hused : (w.second call).modified ∈
      [w.file.modified] ++ call.writes.map Version.modified := by
    rw [second_eq]
    exact Version.after_modified_mem List.mem_cons_self call.writes
  rw [read_eq]
  exact ⟨fun _ htime => Option.some.inj htime ▸ hused, hused, fun _ => .inr rfl⟩

/-- **Step.** A poll notes a time before its look at the text, so what it returns is not older. -/
theorem Caught.poll (h : w.Caught early used) {call : Call}
    (fresh : (used ++ call.writes.map Version.modified).Nodup) :
    (w.poll call).Caught early (used ++ call.writes.map Version.modified) := by
  have hsecond : (w.second call).modified ∈ used ++ call.writes.map Version.modified := by
    rw [second_eq]
    exact Version.after_modified_mem h.stands call.writes
  by_cases hsame : w.watch.modified = some (w.first call).modified
  · rw [poll_of_noted hsame]
    refine ⟨fun time htime => List.mem_append_left _ (h.noted time htime), hsecond,
      fun hcurrent => ?_⟩
    -- a time that the watch has noted is an old one, so nothing was written
    have hold : (w.second call).modified ∈ used := h.noted _ hcurrent
    rw [second_eq] at hold hcurrent ⊢
    rw [Version.writes_eq_nil _ fresh hold] at hcurrent ⊢
    exact h.caught hcurrent
  · rw [poll_of_not_noted hsame]
    have hfirst : (w.first call).modified ∈ used ++ call.writes.map Version.modified := by
      rw [Call.writes, List.map_append, ← List.append_assoc]
      exact List.mem_append_left _ (Version.after_modified_mem h.stands call.before)
    exact ⟨fun _ htime => Option.some.inj htime ▸ hfirst, hsecond, fun _ => .inl rfl⟩

/-- **Run.** So do any polls, while all times are new. -/
theorem Caught.run (h : w.Caught early used) {calls : List Call}
    (fresh : (used ++ (calls.flatMap Call.writes).map Version.modified).Nodup) :
    (w.run calls).Caught early (used ++ (calls.flatMap Call.writes).map Version.modified) := by
  induction calls generalizing w used with
  | nil =>
    rw [List.flatMap_nil, List.map_nil, List.append_nil]
    exact h
  | cons call calls ih =>
    rw [List.flatMap_cons, List.map_append, ← List.append_assoc] at fresh ⊢
    exact ih (h.poll (List.nodup_append.1 fresh).1) fresh

/-! ### The end of a run -/

/-- Whatever a poll answers, the file is afterwards what the call's writes have left. -/
theorem poll_file (w : Watched) (call : Call) : (w.poll call).file = w.file.after call.writes := by
  rw [← second_eq]
  rfl

/-- The file is what its writes make of it, whatever the watch does. -/
theorem run_file (w : Watched) (calls : List Call) :
    (w.run calls).file = w.file.after (calls.flatMap Call.writes) := by
  induction calls generalizing w with
  | nil => rfl
  | cons call calls ih =>
    rw [List.flatMap_cons, Version.after_append, ← poll_file]
    exact ih (w.poll call)

/-- A poll without a write between its looks leaves the time of the file noted. -/
theorem noted_poll_of_quiet (w : Watched) (writes : List Version) :
    (w.poll ⟨writes, []⟩).watch.modified = some (w.poll ⟨writes, []⟩).file.modified := by
  by_cases hsame : w.watch.modified = some (w.first ⟨writes, []⟩).modified
  · rw [poll_of_noted hsame]
    exact hsame
  · rw [poll_of_not_noted hsame]
    rfl

/-- Once the time of the file is noted, polls change nothing until there is a write. -/
theorem run_of_noted (h : w.watch.modified = some w.file.modified) {calls : List Call}
    (quiet : calls.flatMap Call.writes = []) : w.run calls = w := by
  induction calls with
  | nil => rfl
  | cons call calls ih =>
    rw [List.flatMap_cons, List.append_eq_nil_iff] at quiet
    obtain ⟨hbefore, hbetween⟩ := List.append_eq_nil_iff.1 quiet.1
    -- no write means that both looks find the file whose time is noted
    have hpoll : w.poll call = w := by
      have hfirst : w.first call = w.file := by rw [first, hbefore, Version.after]
      have hsecond : w.second call = w.file := by rw [second, hfirst, hbetween, Version.after]
      rw [poll_of_noted (hfirst ▸ h), hsecond]
    show (w.poll call).run calls = w
    rw [hpoll]
    exact ih quiet.2

variable {reading : Call} {polls : List Call} {rest : List Version}

/-- Without a write after the read, polls leave things as the read left them. -/
theorem finish_eq_read (quiet : polls.flatMap Call.writes ++ rest = []) :
    ((w.read reading).run polls).poll ⟨rest, []⟩ = w.read reading := by
  obtain ⟨hpolls, rfl⟩ := List.append_eq_nil_iff.1 quiet
  have hnoted : (w.read reading).watch.modified = some (w.read reading).file.modified := by
    rw [read_eq]
  rw [run_of_noted hnoted hpolls]
  exact run_of_noted hnoted (show [(⟨[], []⟩ : Call)].flatMap Call.writes = [] from rfl)

/-- With a write after the read, the last poll has returned the text of the file. -/
theorem finish_caught
    (fresh : ((w.file :: (reading.writes ++ polls.flatMap Call.writes ++ rest)).map
      Version.modified).Nodup)
    (later : polls.flatMap Call.writes ++ rest ≠ []) :
    let done := ((w.read reading).run polls).poll ⟨rest, []⟩
    done.last = some done.file.text := by
  intro done
  have hdone : done = (w.read reading).run (polls ++ [⟨rest, []⟩]) := by
    rw [run, List.foldl_append]
    rfl
  have hwrites : (polls ++ [(⟨rest, []⟩ : Call)]).flatMap Call.writes =
      polls.flatMap Call.writes ++ rest := by
    rw [List.flatMap_append, List.flatMap_singleton, Call.writes, List.append_nil]
  rw [List.append_assoc, List.map_cons, List.map_append, ← List.cons_append, ← hwrites] at fresh
  have hread := caught_read w reading
  have hcaught := hdone ▸ hread.run fresh
  refine (hcaught.caught (noted_poll_of_quiet _ rest)).resolve_right fun hearly => later ?_
  -- otherwise the time of the file is still the one that the read noted
  rw [← hwrites]
  refine Version.writes_eq_nil (w.read reading).file fresh ?_
  rw [← run_file, ← hdone, hearly]
  have hstands := hread.stands
  rw [read_eq] at hstands
  exact hstands

/-- **When no update is lost.** One read, polls, and a last poll after the writer has stopped, with
writes between any two looks, each at a new time.  The text that was returned last is that of the
file exactly when something was written after the read, or the read returned that text.  So a read
without a write between its looks is enough. -/
theorem last_text_is_current_iff (w : Watched) (reading : Call) (polls : List Call)
    (rest : List Version)
    (fresh : ((w.file :: (reading.writes ++ polls.flatMap Call.writes ++ rest)).map
      Version.modified).Nodup) :
    let done := ((w.read reading).run polls).poll ⟨rest, []⟩
    (done.last = some done.file.text ↔
      polls.flatMap Call.writes ++ rest ≠ [] ∨
        (w.first reading).text = done.file.text) ∧
      (reading.between = [] → done.last = some done.file.text) := by
  intro done
  -- nothing is written after the read: its text, and what is noted, stay for good
  by_cases hquiet : polls.flatMap Call.writes ++ rest = []
  · have hdone : done = ⟨w.second reading, ⟨some (w.second reading).modified⟩,
        some (w.first reading).text⟩ :=
      (finish_eq_read hquiet).trans (read_eq w reading)
    rw [hdone, hquiet]
    refine ⟨by simp, fun hbetween => ?_⟩
    show some (w.first reading).text = some (w.second reading).text
    rw [second, hbetween, Version.after]
  · have hlast : done.last = some done.file.text := finish_caught fresh hquiet
    exact ⟨⟨fun _ => .inl hquiet, fun _ => hlast⟩, fun _ => hlast⟩

/-! ### A write between the looks of a read -/

/-- A first text, and two that may be written in its place. -/
def one : Version := ⟨encodeText "one", "one", 1, by cbv⟩

def two : Version := ⟨encodeText "two", "two", 2, by cbv⟩

def three : Version := ⟨encodeText "three", "three", 3, by cbv⟩

/-- A file with the first text, and a watch that was not used yet. -/
def untouched : Watched := ⟨one, .initial, none⟩

/-- A later write makes up for a write between the looks of the read. -/
theorem last_text_is_current_later :
    ([one, two, three].map Version.modified).Nodup ∧
      ((untouched.read ⟨[], [two]⟩).poll ⟨[three], []⟩).last = some "three" := by
  have fresh : ([one, two, three].map Version.modified).Nodup := by decide
  refine ⟨fresh, ?_⟩
  exact (last_text_is_current_iff untouched ⟨[], [two]⟩ [] [three] fresh).1.2 (.inl (by simp))

/-- **A lost update.** The second text is written between the looks of the read, which returns the
first text and notes the time of the second; the poll finds that time noted and reads nothing. -/
theorem overtaken_read :
    ([one, two].map Version.modified).Nodup ∧
      let done := (untouched.read ⟨[], [two]⟩).poll ⟨[], []⟩
      done.file.text = "two" ∧ done.last = some "one" := by
  refine ⟨by decide, rfl, ?_⟩
  rw [poll_of_noted, read_eq]
  · rfl
  · rw [read_eq]
    rfl

end Watched

end TreeOutline
