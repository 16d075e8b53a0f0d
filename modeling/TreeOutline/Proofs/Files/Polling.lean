import TreeOutline.Proofs.Files.Interleaving
import TreeOutline.Proofs.Text.Utf8

namespace TreeOutline

/-!
# What polls deliver

Something stands at a path, or nothing does; it is written, touched, removed and made again, and in
between a watch on the path is called.

* `Look.text_eq_ok_iff` — a look shows a text when it shows a file with the bytes of this text.
* `FileWatch.poll_eq_text_iff`, `poll_eq_none_iff`, `poll_eq_error_iff` — the three answers of a
  poll, by what stands at the path and the time that the watch has noted.
* `WatchedPath`, `WatchedPath.run` — a path, a watch on it and what its calls have answered, over
  any course of events.
* `WatchedPath.delivered?` — the time of the file at the latest call that answered with its text;
  `modified_run` says that this is the time that the watch has noted.
* `WatchedPath.changes_delivered_once` — **each change is delivered once, and no failure loses
  one.**
-/

/-- Bytes are read as a text exactly where they are its encoding. -/
theorem textOfBytes_eq_ok_iff {bytes : Bytes} {text : String} :
    textOfBytes bytes = .ok text ↔ bytes = encodeText text := by
  unfold textOfBytes
  cases hdecode : decodeText? bytes with
  | none => simp [← decodeText?_eq_some_iff, hdecode]
  | some found => simp [← decodeText?_eq_some_iff, hdecode]

/-- Bytes that are there may be unreadable, but they are never reported as missing. -/
theorem textOfBytes_ne_notFound (bytes : Bytes) : textOfBytes bytes ≠ .error .notFound := by
  unfold textOfBytes
  cases decodeText? bytes with
  | none => simp
  | some text => simp

/-! ### Looks -/

namespace Look

/-- What the look shows was changed last at this time. -/
def HasTime (look : Look) (time : Option Int) : Prop :=
  ∃ file, look = .ok file ∧ time = some file.modified

variable {look : Look} {file : FileState} {time : Option Int}

/-- A file that is found has its own time and no other. -/
theorem hasTime_file : HasTime (.ok file) time ↔ time = some file.modified := by
  simp [HasTime]

/-- A look that fails has no time. -/
theorem not_hasTime_problem {problem : FileProblem} : ¬HasTime (.error problem) time := by
  simp [HasTime]

/-- A look that fails reports its problem as the text's. -/
theorem text_problem (problem : FileProblem) : text (.error problem) = .error problem := rfl

/-- A look shows a text when it shows a file with the bytes of this text. -/
theorem text_eq_ok_iff {text : String} :
    look.text = .ok text ↔ ∃ time, look = .ok ⟨.file (encodeText text), time⟩ := by
  rcases look with problem | ⟨contents | _, modified⟩
  · simp [text_problem]
  · show textOfBytes contents = .ok text ↔ _
    simp [textOfBytes_eq_ok_iff]
  · simp [Look.text, bind, Except.bind, Files.Found.contents]

/-- What stands at a path is not missing, even if it has no text. -/
theorem text_ne_notFound (file : FileState) : Look.text (.ok file) ≠ .error .notFound := by
  rcases file with ⟨contents | _, modified⟩
  · exact textOfBytes_ne_notFound contents
  · simp [Look.text, bind, Except.bind, Files.Found.contents]

end Look

/-! ### Calls with nothing written in between -/

namespace FileWatch

variable {watch : FileWatch} {look : Look} {file : FileState} {text : String}
  {problem : FileProblem}

/-- At another time than the one noted a poll answers with what the file shows, and notes the time
if that is a text. -/
theorem poll_of_other_time (h : watch.modified ≠ some file.modified) :
    watch.poll (.ok file) (.ok file) =
      match Look.text (.ok file) with
      | .ok text => (.ok (some text), ⟨some file.modified⟩)
      | .error problem => (.error problem, watch) := by
  refine (if_neg h).trans ?_
  have hfound := Look.text_ne_notFound file
  cases htext : Look.text (.ok file) with
  | ok text => rfl
  | error problem =>
    cases problem with
    | notFound => exact absurd htext hfound
    | notText | isDirectory | notDirectory | badName | nameTooLong => rfl

/-- Without a look at the time a poll only tells why, unless nothing stands there. -/
theorem poll_of_problem (watch : FileWatch) (problem : FileProblem) (second : Look) :
    watch.poll (.error problem) second =
      (if problem = .notFound then .ok none else .error problem, watch) := by
  cases problem <;> rfl

/-- **A text** is answered when the file has one and its time is not the one noted. -/
theorem poll_eq_text_iff : (watch.poll look look).1 = .ok (some text) ↔
    look.text = .ok text ∧ ¬look.HasTime watch.modified := by
  cases look with
  | error problem =>
    rw [poll_of_problem]
    by_cases hmissing : problem = .notFound <;> simp [hmissing, Look.text_problem]
  | ok file =>
    rw [Look.hasTime_file]
    by_cases hsame : watch.modified = some file.modified
    · rw [poll_of_noted hsame]
      simp [hsame]
    · rw [poll_of_other_time hsame]
      cases Look.text (.ok file) <;> simp [hsame]

/-- **Nothing** is answered when nothing stands there, or its time is the one noted. -/
theorem poll_eq_none_iff : (watch.poll look look).1 = .ok none ↔
    look = .error .notFound ∨ look.HasTime watch.modified := by
  cases look with
  | error problem =>
    rw [poll_of_problem]
    by_cases hmissing : problem = .notFound <;> simp [hmissing, Look.not_hasTime_problem]
  | ok file =>
    rw [Look.hasTime_file]
    by_cases hsame : watch.modified = some file.modified
    · rw [poll_of_noted hsame]
      simp [hsame]
    · rw [poll_of_other_time hsame]
      cases Look.text (.ok file) <;> simp [hsame]

/-- **A problem** is answered when something else keeps the text from being read. -/
theorem poll_eq_error_iff : (watch.poll look look).1 = .error problem ↔
    look.text = .error problem ∧ problem ≠ .notFound ∧ ¬look.HasTime watch.modified := by
  cases look with
  | error other =>
    rw [poll_of_problem]
    by_cases hmissing : other = .notFound
    · subst hmissing
      rw [if_pos rfl, Look.text_problem, Except.error.injEq]
      exact ⟨fun h => absurd h (by simp), fun ⟨hsame, hother, _⟩ => absurd hsame.symm hother⟩
    · rw [if_neg hmissing, Look.text_problem, Except.error.injEq, Except.error.injEq]
      exact ⟨fun hsame => ⟨hsame, hsame ▸ hmissing, Look.not_hasTime_problem⟩, And.left⟩
  | ok file =>
    rw [Look.hasTime_file]
    by_cases hsame : watch.modified = some file.modified
    · rw [poll_of_noted hsame]
      simp [hsame]
    · rw [poll_of_other_time hsame]
      -- a file that is there fails in some other way than by being missing
      have hfound := Look.text_ne_notFound file
      cases htext : Look.text (.ok file) with
      | ok text => simp
      | error other =>
        rw [htext] at hfound
        dsimp only
        rw [Except.error.injEq, Except.error.injEq]
        exact ⟨fun heq => ⟨heq, heq ▸ fun h => hfound (congrArg _ h), hsame⟩, And.left⟩

/-- With a text a poll notes the time of what it saw. -/
theorem hasTime_poll_of_text (h : (watch.poll look look).1 = .ok (some text)) :
    look.HasTime (watch.poll look look).2.modified := by
  obtain ⟨htext, hother⟩ := poll_eq_text_iff.1 h
  obtain ⟨time, rfl⟩ := Look.text_eq_ok_iff.1 htext
  rw [Look.hasTime_file] at hother ⊢
  rw [poll_of_other_time hother, htext]

/-- Without a text a poll leaves the watch as it was. -/
theorem poll_snd_of_not_text (h : ∀ text, (watch.poll look look).1 ≠ .ok (some text)) :
    (watch.poll look look).2 = watch := by
  cases look with
  | error problem => rw [poll_of_problem]
  | ok file =>
    by_cases hsame : watch.modified = some file.modified
    · rw [poll_of_noted hsame]
    · -- another time: it is noted only together with a text
      rw [poll_of_other_time hsame] at h ⊢
      cases htext : Look.text (.ok file) with
      | ok text =>
        rw [htext] at h
        exact absurd rfl (h text)
      | error problem => rfl

/-- A read that is not disturbed answers with the text of the one look. -/
theorem read_fst (watch : FileWatch) (look : Look) : (watch.read look look).1 = look.text := by
  unfold read
  cases look.text <;> rfl

/-- With a text a read notes the time of what it saw. -/
theorem hasTime_read_of_text (watch : FileWatch) (h : look.text = .ok text) :
    look.HasTime (watch.read look look).2.modified := by
  rw [read_of_text h]
  obtain ⟨time, rfl⟩ := Look.text_eq_ok_iff.1 h
  exact Look.hasTime_file.2 rfl

/-- A read that fails leaves the watch as it was. -/
theorem read_snd_of_problem (h : look.text = .error problem) :
    (watch.read look look).2 = watch := by
  unfold read
  rw [h]

end FileWatch

/-! ### A path and its watch -/

/-- What happens at a watched path.  What is put there takes the place of what stood there. -/
inductive WatchStep where
  | put (found : Files.Found) (modified : Int)
  | touch (modified : Int)
  | remove
  | read
  | poll

/-- The watch is called, and nothing happens to what stands at the path. -/
def WatchStep.IsCall : WatchStep → Prop
  | .read | .poll => True
  | .put _ _ | .touch _ | .remove => False

/-- What a call of a watch saw and answered. -/
structure WatchAnswer where
  look : Look
  /-- A text, or that there is nothing new, or a problem. -/
  text : Except FileProblem (Option String)

/-- The time of what was seen, when it was answered with its text. -/
def WatchAnswer.time? (answer : WatchAnswer) : Option Int :=
  match answer.text with
  | .ok (some _) => answer.look.toOption.map FileState.modified
  | _ => none

/-- An answer that is no text notes no time. -/
theorem WatchAnswer.time?_of_not_text {answer : WatchAnswer}
    (h : ∀ text, answer.text ≠ .ok (some text)) : answer.time? = none := by
  unfold time?
  split
  next text htext => exact absurd htext (h text)
  next => rfl

/-- A path, a watch on it, and what its calls have answered, the latest first. -/
structure WatchedPath where
  look : Look
  watch : FileWatch
  answers : List WatchAnswer

namespace WatchedPath

/-- A watch that was not called yet. -/
def start (look : Look) : WatchedPath := ⟨look, .initial, []⟩

/-- What a poll answers now. -/
def polled (w : WatchedPath) : Except FileProblem (Option String) := (w.watch.poll w.look w.look).1

/-- A call has answered. -/
def answered (w : WatchedPath) (text : Except FileProblem (Option String)) (watch : FileWatch) :
    WatchedPath :=
  ⟨w.look, watch, ⟨w.look, text⟩ :: w.answers⟩

/-- Something happens. -/
def act (w : WatchedPath) : WatchStep → WatchedPath
  | .put found modified => { w with look := .ok ⟨found, modified⟩ }
  | .touch modified => { w with look := w.look.map fun file => { file with modified } }
  | .remove => { w with look := .error .notFound }
  | .read =>
    let (text, watch) := w.watch.read w.look w.look
    w.answered (text.map some) watch
  | .poll =>
    let (text, watch) := w.watch.poll w.look w.look
    w.answered text watch

/-- One thing after the other happens. -/
def run (w : WatchedPath) (steps : List WatchStep) : WatchedPath := steps.foldl act w

/-- The time of the file at the latest call that answered with its text. -/
def delivered? (w : WatchedPath) : Option Int := w.answers.findSome? WatchAnswer.time?

/-- No call in these steps answers with a text. -/
def Silent (w : WatchedPath) (steps : List WatchStep) : Prop :=
  ∃ since, (w.run steps).answers = since ++ w.answers ∧
    ∀ answer ∈ since, ∀ text, answer.text ≠ .ok (some text)

variable {w : WatchedPath} {text : String} {problem : FileProblem}

/-- A delivered text makes the time of the look the delivered one. -/
theorem delivered?_answered_of_text {time : Option Int} (h : w.look.HasTime time) (text : String)
    (watch : FileWatch) : (w.answered (.ok (some text)) watch).delivered? = time := by
  obtain ⟨file, hlook, rfl⟩ := h
  unfold delivered? answered
  rw [hlook]
  rfl

/-- Any other answer leaves the delivered time as it is. -/
theorem delivered?_answered_of_not_text {answer : Except FileProblem (Option String)}
    (h : ∀ text, answer ≠ .ok (some text)) (watch : FileWatch) :
    (w.answered answer watch).delivered? = w.delivered? := by
  unfold delivered? answered
  rw [List.findSome?_cons, WatchAnswer.time?_of_not_text h]

/-- Steps in which no call answers with a text leave the time of the latest that did. -/
theorem Silent.delivered?_run {steps : List WatchStep} (h : w.Silent steps) :
    (w.run steps).delivered? = w.delivered? := by
  obtain ⟨since, hanswers, hsince⟩ := h
  have hnone : since.findSome? WatchAnswer.time? = none :=
    List.findSome?_eq_none_iff.2 fun answer hanswer =>
      WatchAnswer.time?_of_not_text (hsince answer hanswer)
  unfold delivered?
  rw [hanswers, List.findSome?_append, hnone, Option.none_or]

/-! ### The noted time -/

/-- A poll without a text leaves watch and time. -/
theorem act_poll_of_not_text (h : ∀ text, w.polled ≠ .ok (some text)) :
    (w.act .poll).watch = w.watch ∧ (w.act .poll).delivered? = w.delivered? :=
  ⟨FileWatch.poll_snd_of_not_text h, delivered?_answered_of_not_text h _⟩

/-- So does a read that fails. -/
theorem act_read_of_problem (h : w.look.text = .error problem) :
    (w.act .read).watch = w.watch ∧ (w.act .read).delivered? = w.delivered? := by
  have hanswer : (w.watch.read w.look w.look).1.map some = .error problem := by
    rw [FileWatch.read_fst, h]
    rfl
  refine ⟨FileWatch.read_snd_of_problem h, delivered?_answered_of_not_text (fun text => ?_) _⟩
  exact fun htext => absurd (hanswer.symm.trans htext) (by simp)

/-- **Step.** The watch notes the time of the file at the latest call that answered with its
text. -/
theorem modified_act (h : w.watch.modified = w.delivered?) (step : WatchStep) :
    (w.act step).watch.modified = (w.act step).delivered? := by
  cases step with
  | put found modified | touch modified | remove => exact h
  | read =>
    cases htext : w.look.text with
    | ok text =>
      have hanswer : (w.watch.read w.look w.look).1.map some = .ok (some text) := by
        rw [FileWatch.read_fst, htext]
        rfl
      have htime := w.watch.hasTime_read_of_text htext
      show _ = (w.answered ((w.watch.read w.look w.look).1.map some) _).delivered?
      rw [hanswer, delivered?_answered_of_text htime]
      rfl
    | error problem =>
      obtain ⟨hwatch, htime⟩ := act_read_of_problem htext
      rw [hwatch, htime, h]
  | poll =>
    -- a poll notes a time only when it answers with a text, and this is delivered
    by_cases htext : ∃ text, w.polled = .ok (some text)
    · obtain ⟨text, htext⟩ := htext
      have htime := FileWatch.hasTime_poll_of_text htext
      show _ = (w.answered w.polled _).delivered?
      rw [htext, delivered?_answered_of_text htime]
      rfl
    · obtain ⟨hwatch, htime⟩ := act_poll_of_not_text (not_exists.1 htext)
      rw [hwatch, htime, h]

/-- **Run.** So it does after any steps. -/
theorem modified_run (h : w.watch.modified = w.delivered?) (steps : List WatchStep) :
    (w.run steps).watch.modified = (w.run steps).delivered? := by
  induction steps generalizing w with
  | nil => exact h
  | cons step rest ih => exact ih (modified_act h step)

/-- A poll answers with a text when there is one at another time. -/
theorem polled_eq_text_iff (h : w.watch.modified = w.delivered?) :
    w.polled = .ok (some text) ↔
      ∃ time, w.look = .ok ⟨.file (encodeText text), time⟩ ∧ w.delivered? ≠ some time := by
  unfold polled
  rw [FileWatch.poll_eq_text_iff, Look.text_eq_ok_iff, h, ← exists_and_right]
  refine exists_congr fun time => and_congr_right fun hlook => ?_
  rw [hlook, Look.hasTime_file]

/-- It answers with a problem when something stands there at another time, or something is in the
way. -/
theorem polled_eq_error_iff (h : w.watch.modified = w.delivered?) :
    w.polled = .error problem ↔
      w.look.text = .error problem ∧ w.look ≠ .error .notFound ∧ ¬w.look.HasTime w.delivered? := by
  unfold polled
  rw [FileWatch.poll_eq_error_iff, h]
  refine and_congr_right fun htext => and_congr_left fun _ => not_congr ?_
  -- a look that finds nothing has just this problem, and a file never has it
  constructor
  · rintro rfl
    cases hlook : w.look with
    | ok file =>
      rw [hlook] at htext
      exact absurd htext (Look.text_ne_notFound file)
    | error other =>
      rw [hlook] at htext
      exact congrArg Except.error (Except.error.inj htext)
  · intro hlook
    rw [hlook] at htext
    exact (Except.error.inj htext).symm

/-- After a poll that answered with a text there is nothing new. -/
theorem polled_act_poll (w : WatchedPath) (text : String) :
    (w.act .poll).polled ≠ .ok (some text) := by
  intro hagain
  obtain ⟨htext, hother⟩ := FileWatch.poll_eq_text_iff.1 hagain
  by_cases hfirst : ∃ text, w.polled = .ok (some text)
  · obtain ⟨text, hfirst⟩ := hfirst
    exact hother (FileWatch.hasTime_poll_of_text hfirst)
  · -- The first poll left the watch as it was, so the second one answers the same.
    rw [not_exists] at hfirst
    rw [(act_poll_of_not_text hfirst).1] at hother
    exact hfirst text (FileWatch.poll_eq_text_iff.2 ⟨htext, hother⟩)

/-- Nor is there after a read, if there was nothing new before. -/
theorem polled_act_read (h : ∀ text, w.polled ≠ .ok (some text)) (text : String) :
    (w.act .read).polled ≠ .ok (some text) := by
  cases htext : w.look.text with
  | ok found =>
    intro hagain
    exact (FileWatch.poll_eq_text_iff.1 hagain).2 (w.watch.hasTime_read_of_text htext)
  | error problem =>
    show ((w.act .read).watch.poll w.look w.look).1 ≠ _
    rw [(act_read_of_problem htext).1]
    exact h text

/-- As long as the watch is only called, nothing new turns up. -/
theorem polled_run_calls (h : ∀ text, w.polled ≠ .ok (some text)) {calls : List WatchStep}
    (hcalls : ∀ step ∈ calls, step.IsCall) (text : String) :
    (w.run calls).polled ≠ .ok (some text) := by
  induction calls generalizing w with
  | nil => exact h text
  | cons step rest ih =>
    have hrest : ∀ other ∈ rest, other.IsCall :=
      fun other hother => hcalls other (List.mem_cons_of_mem _ hother)
    have hstep : step.IsCall := hcalls step List.mem_cons_self
    cases step with
    | read => exact ih (polled_act_read h) hrest
    | poll => exact ih w.polled_act_poll hrest
    | put found modified | touch modified | remove => exact hstep.elim

/-- **Each change is delivered once, and no failure loses one.** Over any course of events at a path
let `m` be the time of the file at the latest call that answered with its text.  A poll answers with
a text exactly when a file stands there with the bytes of this text and another time than `m`; with
nothing when nothing stands there or its time is `m`; and otherwise with the problem that the look
shows.  Without a text it leaves `m` and the watch, and so does a read that fails.  So when a poll
found no text, the first one that finds one answers with it, whatever has happened since, unless the
time of the file is `m` again; it is not if it is still the time of the poll that failed.  After a
poll no other one answers with a text before something happens at the path, whether the watch reads
in between or not. -/
theorem changes_delivered_once (look : Look) (steps : List WatchStep) :
    let w := (start look).run steps
    let m := w.delivered?
    (∀ text, w.polled = .ok (some text) ↔
      ∃ time, w.look = .ok ⟨.file (encodeText text), time⟩ ∧ m ≠ some time) ∧
    (w.polled = .ok none ↔ w.look = .error .notFound ∨ w.look.HasTime m) ∧
    (∀ problem, w.polled = .error problem ↔
      w.look.text = .error problem ∧ w.look ≠ .error .notFound ∧ ¬w.look.HasTime m) ∧
    ((∀ text, w.polled ≠ .ok (some text)) →
      (w.act .poll).watch = w.watch ∧ (w.act .poll).delivered? = m) ∧
    (∀ problem, w.look.text = .error problem →
      (w.act .read).watch = w.watch ∧ (w.act .read).delivered? = m) ∧
    (∀ file problem later, w.look = .ok file → w.polled = .error problem →
      (w.act .poll).Silent later →
      let repaired := (w.act .poll).run later
      ∀ text time, repaired.look = .ok ⟨.file (encodeText text), time⟩ →
        (repaired.polled = .ok (some text) ↔ m ≠ some time) ∧
        (time = file.modified → repaired.polled = .ok (some text))) ∧
    ∀ calls : List WatchStep, (∀ step ∈ calls, step.IsCall) →
      ∀ text, ((w.act .poll).run calls).polled ≠ .ok (some text) := by
  intro w m
  have hnoted : w.watch.modified = m := modified_run rfl steps
  refine ⟨fun text => polled_eq_text_iff hnoted, ?_, fun problem => polled_eq_error_iff hnoted,
    act_poll_of_not_text, fun problem => act_read_of_problem, ?_,
    fun calls => polled_run_calls w.polled_act_poll⟩
  · rw [← hnoted]
    exact FileWatch.poll_eq_none_iff
  · intro file problem later hfile hfails hsilent repaired text time hlook
    have hnone (text : String) : w.polled ≠ .ok (some text) := by
      rw [hfails]
      simp
    have hkept : repaired.delivered? = m :=
      hsilent.delivered?_run.trans (act_poll_of_not_text hnone).2
    have hanswer : repaired.polled = .ok (some text) ↔ m ≠ some time := by
      rw [polled_eq_text_iff (modified_run (modified_act hnoted .poll) later), hlook, hkept]
      simp
    refine ⟨hanswer, fun hsame => hanswer.2 fun hm => ?_⟩
    -- The poll would not have failed if it had seen the time that was noted.
    have hother := ((polled_eq_error_iff hnoted).1 hfails).2.2
    rw [hfile, Look.hasTime_file, ← hsame] at hother
    exact hother hm

/-! ### A file that is spoilt for a while -/

/-- A file is read, then spoilt. -/
def spoiling : List WatchStep :=
  [.read, .put (.file (encodeText "one")) 1, .read, .put (.file [0xFF]) 2]

/-- It is polled, and after another poll written anew, at the same time. -/
def repairing : List WatchStep := [.poll, .put (.file (encodeText "two")) 2]

/-- The polls of the spoilt file fail; once it is repaired a poll answers with its text, although
its time is that of the spoilt one, and the next poll has nothing new, also after a read. -/
theorem changes_delivered_once_repaired :
    let spoilt := (start (.error .notFound)).run spoiling
    let repaired := (spoilt.act .poll).run repairing
    spoilt.look = .ok ⟨.file [0xFF], 2⟩ ∧ spoilt.polled = .error .notText ∧
      spoilt.look.text = .error .notText ∧ (spoilt.act .poll).Silent repairing ∧
      repaired.look = .ok ⟨.file (encodeText "two"), 2⟩ ∧ repaired.polled = .ok (some "two") ∧
      ((repaired.act .poll).run [.read]).polled ≠ .ok (some "two") := by
  intro spoilt repaired
  have hlook : spoilt.look = .ok ⟨.file [0xFF], 2⟩ := rfl
  have hpolled : spoilt.polled = .error .notText := by
    unfold spoilt
    cbv
  have htext : spoilt.look.text = .error .notText := by
    unfold spoilt
    cbv
  have hagain : (spoilt.act .poll).polled = .error .notText := by
    unfold spoilt
    cbv
  have hsilent : (spoilt.act .poll).Silent repairing :=
    ⟨[⟨spoilt.look, (spoilt.act .poll).polled⟩], rfl, by simp [hagain]⟩
  -- the theorem at the spoilt file, then at the repaired one
  obtain ⟨-, -, -, -, -, hrepaired, -⟩ := changes_delivered_once (.error .notFound) spoiling
  obtain ⟨-, -, -, -, -, -, honce⟩ :=
    changes_delivered_once (.error .notFound) (spoiling ++ .poll :: repairing)
  exact ⟨hlook, hpolled, htext, hsilent, rfl,
    (hrepaired _ _ repairing hlook hpolled hsilent "two" 2 rfl).2 rfl,
    honce [.read] (List.forall_mem_singleton.2 trivial) "two"⟩

end WatchedPath

end TreeOutline
