import Microworlds.Proofs.Progress.Account

/-!
# Rewards when saves fail

A store may refuse to keep a record. The call that needed it fails then and can be made again. Whatever
saves fail, a tracker is never ahead of its store, every lesson is granted at most once, and the calls
that have failed leave no trace: the others come to the same rewards and to the same record as they would
without them.
-/

namespace Microworlds.Proofs

open Progress

variable {σ ε : Type}

/-- A store that holds a record after it has kept it, and after a failed save what it held before. -/
structure Steadfast (store : Store σ ε) : Prop where
  kept : ∀ record place next, store.save record place = (.ok (), next) →
    store.load next = .ok (some record)
  refused : ∀ record place e next, store.save record place = (.error e, next) →
    store.load next = store.load place

/-! ### Calls over a store -/

abbrev Receipt (ε : Type) := Except (Setback ε) (Option Reward)

def Completion.over (store : Store σ ε) (tracker : Tracker σ) : Completion → Receipt ε × Tracker σ
  | lesson scenario id time => tracker.complete store scenario id time
  | current scenario time => tracker.completeCurrent store scenario time

/-- The answers to calls that are made one after the other, each behind its call. -/
def answered (store : Store σ ε) : Tracker σ → List Completion → List (Completion × Receipt ε)
  | _, [] => []
  | tracker, call :: more =>
    (call, (call.over store tracker).1) :: answered store (call.over store tracker).2 more

/-- The tracker after some calls. -/
def trackedOver (store : Store σ ε) (tracker : Tracker σ) (calls : List Completion) : Tracker σ :=
  calls.foldl (fun tracker call => (call.over store tracker).2) tracker

/-- The answers to the calls that name a lesson. -/
def answersFor (offer : Course × CourseLesson) (answers : List (Completion × Receipt ε)) :
    List (Receipt ε) :=
  (answers.filter fun answer => answer.1.named? == some offer).map Prod.snd

/-- The calls that have not failed. -/
def answeredCalls (answers : List (Completion × Receipt ε)) : List Completion :=
  (answers.filter fun answer => answer.2.toOption.isSome).map Prod.fst

/-- What has come of the calls that have not failed. -/
def rewards (answers : List (Completion × Receipt ε)) : List (Option Reward) :=
  answers.filterMap fun answer => answer.2.toOption

variable {store : Store σ ε} {tracker : Tracker σ} {calls : List Completion} {call : Completion}
  {offer : Course × CourseLesson}

lemma trackedOver_append (tracker : Tracker σ) (calls : List Completion) (call : Completion) :
    trackedOver store tracker (calls ++ [call]) =
      (call.over store (trackedOver store tracker calls)).2 := by
  unfold trackedOver
  rw [List.foldl_append]
  rfl

lemma answered_append (tracker : Tracker σ) (calls : List Completion) (call : Completion) :
    answered store tracker (calls ++ [call]) = answered store tracker calls ++
      [(call, (call.over store (trackedOver store tracker calls)).1)] := by
  induction calls generalizing tracker with
  | nil => rfl
  | cons first more ih =>
    change _ :: answered store _ (more ++ [call]) = _
    rw [ih]
    rfl

lemma over_eq (store : Store σ ε) (call : Completion) (tracker : Tracker σ) :
    ∃ scenario id, call.named? = offer? scenario id ∧
      call.over store tracker = tracker.complete store scenario id call.time := by
  cases call with
  | lesson scenario id time => exact ⟨scenario, id, rfl, rfl⟩
  | current scenario time => exact ⟨scenario, currentLesson scenario, rfl, rfl⟩

/-- What comes of a call over a store, and the tracker that it leaves. -/
inductive Attempted (store : Store σ ε) (call : Completion) (tracker : Tracker σ) :
    Receipt ε → Tracker σ → Prop
  | unknown (hunknown : call.named? = none) : Attempted store call tracker (.ok none) tracker
  | repeated (offer : Course × CourseLesson) (hoffer : call.named? = some offer)
      (hdone : offer ∈ completed tracker.record) :
    Attempted store call tracker (.ok (some .alreadyCompleted)) tracker
  | granted (offer : Course × CourseLesson) (next : Record) (grant : Grant) (place : σ)
      (hoffer : call.named? = some offer) (hnew : offer ∉ completed tracker.record)
      (hcomplete : tracker.record.complete? offer.1 offer.2 call.time = some (next, grant))
      (hnext : Follows tracker.record offer call.time next)
      (hsave : store.save next tracker.place = (.ok (), place)) :
    Attempted store call tracker (.ok (some (.granted grant))) ⟨place, next⟩
  | failed (offer : Course × CourseLesson) (next : Record) (e : ε) (place : σ)
      (hoffer : call.named? = some offer) (hnew : offer ∉ completed tracker.record)
      (hnext : Follows tracker.record offer call.time next)
      (hsave : store.save next tracker.place = (.error e, place)) :
    Attempted store call tracker (.error (.store e)) ⟨place, tracker.record⟩

/-- The counts of a record have room for another lesson and another course. -/
structure HasSpace (record : Record) : Prop where
  xp : ∀ offer ∈ catalog, offer ∉ completed record →
    record.totalXp.toNat + offer.2.xp.toNat ≤ Word.greatest32
  stars : record.stars.toNat + 1 ≤ Word.greatest32

lemma attempted (store : Store σ ε) (call : Completion) (hspace : HasSpace tracker.record) :
    Attempted store call tracker (call.over store tracker).1 (call.over store tracker).2 := by
  obtain ⟨scenario, id, hnamed, hover⟩ := over_eq store call tracker
  rw [hover]
  cases hoffer : offer? scenario id with
  | none =>
    rw [complete_unknown hoffer]
    exact .unknown (hnamed.trans hoffer)
  | some offer =>
    have hcatalog := offer?_mem hoffer
    by_cases hdone : offer ∈ completed tracker.record
    · rw [complete_repeated hoffer ((mem_completed_iff hcatalog).mp hdone)]
      exact .repeated offer (hnamed.trans hoffer) hdone
    · have hopen := mt (mem_completed_iff hcatalog).mpr hdone
      obtain ⟨next, hcomplete, hnext⟩ :=
        complete?_of_le offer call.time (hspace.xp offer hcatalog hdone) fun _ _ => hspace.stars
      rw [complete_commits hoffer hopen hcomplete]
      cases hsave : store.save next tracker.place with
      | mk result place =>
        cases result with
        | ok kept =>
          rw [commit_of_ok hsave]
          exact .granted offer next _ place (hnamed.trans hoffer) hdone hcomplete hnext hsave
        | error e =>
          rw [commit_of_error hsave]
          exact .failed offer next e place (hnamed.trans hoffer) hdone hnext hsave

/-! ### What has been gained since the beginning -/

/-- The lessons that are completed in a record and were not completed before. -/
def gained (start record : Record) : List (Course × CourseLesson) :=
  (completed record).filter fun offer => offer ∉ completed start

/-- The scenarios whose course was finished by a lesson since the beginning and had no star then. -/
def IsNewCourse (start record : Record) (scenario : Scenario) : Prop :=
  scenario ∉ start.completedCourses ∧ ∃ course ∈ courses, course.scenario = scenario ∧
    record.hasFinished course = true ∧ ¬start.hasFinished course = true

/-- A record has come from another by completions of lessons. -/
structure Grown (start record : Record) : Prop where
  lessons : completed start ⊆ completed record
  xp : record.totalXp.toNat + worthOf (completed start) =
    start.totalXp.toNat + worthOf (completed record)
  listed : ∃ more : List Scenario, record.completedCourses = start.completedCourses ++ more ∧
    more.Nodup ∧ (∀ scenario, scenario ∈ more ↔ IsNewCourse start record scenario) ∧
    record.stars.toNat = start.stars.toNat + more.length

variable {start record next : Record} {time : Instant}

lemma mem_completed_next (hnext : Follows record offer time next) (hoffer : offer ∈ catalog)
    (hnew : offer ∉ completed record) {other : Course × CourseLesson} :
    other ∈ completed next ↔ other = offer ∨ other ∈ completed record := by
  rw [(hnext.completed_perm hoffer hnew).mem_iff, List.mem_cons]

lemma worthOf_next (hnext : Follows record offer time next) (hoffer : offer ∈ catalog)
    (hnew : offer ∉ completed record) :
    worthOf (completed next) = offer.2.xp.toNat + worthOf (completed record) :=
  ((hnext.completed_perm hoffer hnew).map _).sum_nat

namespace Grown

lemma initial (record : Record) : Grown record record where
  lessons := fun _ h => h
  xp := rfl
  listed := by
    refine ⟨[], (List.append_nil _).symm, .nil, fun scenario => ⟨nofun, ?_⟩, rfl⟩
    rintro ⟨-, course, -, -, hfinished, hunfinished⟩
    exact absurd hfinished hunfinished

lemma isNewCourse_iff (h : Grown start record) (hnext : Follows record offer time next)
    (hoffer : offer ∈ catalog) (hnew : offer ∉ completed record) (scenario : Scenario) :
    IsNewCourse start next scenario ↔ IsNewCourse start record scenario ∨
      scenario = offer.1.scenario ∧ scenario ∉ start.completedCourses ∧
        next.hasFinished offer.1 = true := by
  have hcourse : offer.1 ∈ courses := (mem_catalog.mp hoffer).1
  constructor
  · rintro ⟨hbefore, course, hmem, rfl, hfinished, hunfinished⟩
    rcases (hnext.hasFinished_iff hoffer hmem).mp hfinished with hthen | ⟨rfl, hnow⟩
    · exact .inl ⟨hbefore, course, hmem, rfl, hthen, hunfinished⟩
    · exact .inr ⟨rfl, hbefore, hnow⟩
  · rintro (⟨hbefore, course, hmem, rfl, hthen, hunfinished⟩ | ⟨rfl, hbefore, hnow⟩)
    · have hfinished := (hnext.hasFinished_iff hoffer hmem).mpr (.inl hthen)
      exact ⟨hbefore, course, hmem, rfl, hfinished, hunfinished⟩
    · refine ⟨hbefore, offer.1, hcourse, rfl, hnow, fun hstart => hnew (h.lessons ?_)⟩
      have hlesson := hasFinished_iff.mp hstart offer.2 (mem_catalog.mp hoffer).2
      exact (mem_completed_iff hoffer).mpr hlesson

lemma step (h : Grown start record) (hnext : Follows record offer time next)
    (hoffer : offer ∈ catalog) (hnew : offer ∉ completed record) : Grown start next := by
  have hmem := @mem_completed_next offer record next time hnext hoffer hnew
  obtain ⟨more, hcourses, hnodup, hmore, hcount⟩ := h.listed
  have hstars := hnext.stars
  constructor
  case lessons => exact fun other hother => hmem.mpr (.inr (h.lessons hother))
  case xp =>
    have hworth := worthOf_next hnext hoffer hnew
    have hxp := h.xp
    rw [hnext.xp, hworth]
    omega
  case listed =>
    by_cases hfirst : next.hasFinished offer.1 = true ∧ offer.1.scenario ∉ record.completedCourses
    · have hlisted : next.completedCourses = record.completedCourses ++ [offer.1.scenario] := by
        rw [hnext.scenarios, if_pos hfirst]
      have habsent : offer.1.scenario ∉ start.completedCourses ∧ offer.1.scenario ∉ more := by
        rw [hcourses, List.mem_append, not_or] at hfirst
        exact hfirst.2
      refine ⟨more ++ [offer.1.scenario], ?_, List.concat_eq_append ▸ hnodup.concat habsent.2,
        fun scenario => ?_, ?_⟩
      · rw [hlisted, hcourses, List.append_assoc]
      · rw [h.isNewCourse_iff hnext hoffer hnew, List.mem_append, List.mem_singleton, hmore]
        constructor
        · rintro (hthen | rfl)
          · exact .inl hthen
          · exact .inr ⟨rfl, habsent.1, hfirst.1⟩
        · rintro (hthen | ⟨rfl, -, -⟩)
          · exact .inl hthen
          · exact .inr rfl
      · rw [hlisted, List.length_append] at hstars
        rw [List.length_append]
        omega
    · have hlisted : next.completedCourses = record.completedCourses := by
        rw [hnext.scenarios, if_neg hfirst]
      refine ⟨more, hlisted.trans hcourses, hnodup, fun scenario => ?_, ?_⟩
      · rw [h.isNewCourse_iff hnext hoffer hnew, hmore]
        refine ⟨.inl, ?_⟩
        rintro (hthen | ⟨rfl, hbefore, hnow⟩)
        · exact hthen
        · have hthere : offer.1.scenario ∈ record.completedCourses :=
            not_not.mp fun habsent => hfirst ⟨hnow, habsent⟩
          rw [hcourses] at hthere
          exact (hmore _).mp ((List.mem_append.mp hthere).resolve_left hbefore)
      · rw [hlisted] at hstars
        omega

/-- All lessons and courses of the catalog together cannot use up the upper half of a counter. -/
lemma hasSpace (h : Grown start record) (hxp : start.totalXp.toNat < 2 ^ 31)
    (hstars : start.stars.toNat < 2 ^ 31) : HasSpace record := by
  have hgreatest : Word.greatest32 = 2 ^ 32 - 1 := rfl
  constructor
  · intro offer hoffer hnew
    have hnodup : (offer :: completed record).Nodup :=
      List.nodup_cons.mpr ⟨hnew, catalog_nodup.filter _⟩
    have hcatalog : offer :: completed record ⊆ catalog :=
      List.cons_subset.mpr ⟨hoffer, List.filter_subset_self _⟩
    have hle : offer.2.xp.toNat + worthOf (completed record) ≤ 595 := worthOf_le_all hnodup hcatalog
    have hsum := h.xp
    omega
  · obtain ⟨more, -, hnodup, hmore, hcount⟩ := h.listed
    have hscenarios : more ⊆ courses.map Course.scenario := by
      intro scenario hscenario
      obtain ⟨-, course, hcourse, rfl, -⟩ := (hmore scenario).mp hscenario
      exact List.mem_map_of_mem hcourse
    have hlength : more.length ≤ 6 := (hnodup.subperm hscenarios).length_le
    omega

lemma worthOf_gained (h : Grown start record) :
    record.totalXp.toNat = start.totalXp.toNat + worthOf (gained start record) := by
  have hold : ((completed record).filter (· ∈ completed start)).Perm (completed start) := by
    refine (List.perm_ext_iff_of_nodup ((catalog_nodup.filter _).filter _)
      (catalog_nodup.filter _)).mpr fun offer => ?_
    rw [List.mem_filter, decide_eq_true_eq]
    exact ⟨And.right, fun hoffer => ⟨h.lessons hoffer, hoffer⟩⟩
  have hsplit := List.filter_append_perm (· ∈ completed start) (completed record)
  have hworth : worthOf (completed start) + worthOf (gained start record) =
      worthOf (completed record) := by
    have hsum := ((hold.symm.append_right _).trans hsplit).map fun offer => offer.2.xp.toNat
    have hequal := hsum.sum_nat
    rw [List.map_append, List.sum_append] at hequal
    simpa [worthOf, gained] using hequal
  have hxp := h.xp
  omega

end Grown

/-! ### All calls -/

section

variable {start last after : Tracker σ} {answers : List (Completion × Receipt ε)} {answer : Receipt ε}

lemma Attempted.grown {record : Record} (h : Attempted store call last answer after)
    (hlast : Grown record last.record) : Grown record after.record := by
  cases h with
  | unknown => exact hlast
  | repeated => exact hlast
  | granted offer next grant place hoffer hnew _ hnext => exact hlast.step hnext (named?_mem hoffer) hnew
  | failed => exact hlast

lemma grown_trackedOver (store : Store σ ε) (hxp : start.record.totalXp.toNat < 2 ^ 31)
    (hstars : start.record.stars.toNat < 2 ^ 31) (calls : List Completion) :
    Grown start.record (trackedOver store start calls).record := by
  induction calls using List.reverseRecOn with
  | nil => exact .initial start.record
  | append_singleton calls call ih =>
    rw [trackedOver_append]
    exact (attempted store call (ih.hasSpace hxp hstars)).grown ih

lemma answered_induction {motive : List (Completion × Receipt ε) → Tracker σ → Prop}
    (hxp : start.record.totalXp.toNat < 2 ^ 31) (hstars : start.record.stars.toNat < 2 ^ 31)
    (initial : motive [] start)
    (step : ∀ answers last call answer after, Grown start.record last.record → motive answers last →
      Attempted store call last answer after → motive (answers ++ [(call, answer)]) after)
    (calls : List Completion) :
    motive (answered store start calls) (trackedOver store start calls) := by
  induction calls using List.reverseRecOn with
  | nil => exact initial
  | append_singleton calls call ih =>
    have hgrown := grown_trackedOver store hxp hstars calls
    rw [answered_append, trackedOver_append]
    exact step _ _ _ _ _ hgrown ih (attempted store call (hgrown.hasSpace hxp hstars))

/-! ### The record and the store -/

/-- Some call has been granted. -/
def SomeGranted (answers : List (Completion × Receipt ε)) : Prop :=
  ∃ call grant, (call, .ok (some (.granted grant))) ∈ answers

/-- The tracker has the record that was saved last, and if none was saved the one that it began with. -/
structure HeldBy (store : Store σ ε) (start : Tracker σ) (answers : List (Completion × Receipt ε))
    (last : Tracker σ) : Prop where
  saved : SomeGranted answers → store.load last.place = .ok (some last.record)
  unsaved : ¬SomeGranted answers →
    last.record = start.record ∧ store.load last.place = store.load start.place

lemma someGranted_append (hanswer : ∀ grant, answer ≠ .ok (some (.granted grant))) :
    SomeGranted (answers ++ [(call, answer)]) ↔ SomeGranted answers := by
  constructor
  · rintro ⟨other, grant, hmem⟩
    rcases List.mem_append.mp hmem with hbefore | hlast
    · exact ⟨other, grant, hbefore⟩
    · cases List.mem_singleton.mp hlast
      exact absurd rfl (hanswer grant)
  · rintro ⟨other, grant, hmem⟩
    exact ⟨other, grant, List.mem_append_left _ hmem⟩

lemma HeldBy.keep (h : HeldBy store start answers last)
    (hanswer : ∀ grant, answer ≠ .ok (some (.granted grant))) (hrecord : after.record = last.record)
    (hload : store.load after.place = store.load last.place) :
    HeldBy store start (answers ++ [(call, answer)]) after := by
  have hgranted : SomeGranted (answers ++ [(call, answer)]) ↔ SomeGranted answers :=
    someGranted_append hanswer
  constructor
  · intro hsome
    rw [hload, hrecord]
    exact h.saved (hgranted.mp hsome)
  · intro hnone
    rw [hload, hrecord]
    exact h.unsaved (mt hgranted.mpr hnone)

lemma HeldBy.step (hstore : Steadfast store) (h : HeldBy store start answers last)
    (hcall : Attempted store call last answer after) :
    HeldBy store start (answers ++ [(call, answer)]) after := by
  cases hcall with
  | unknown => exact h.keep nofun rfl rfl
  | repeated => exact h.keep nofun rfl rfl
  | granted offer next grant place _ _ _ _ hsave =>
    have hsome : SomeGranted (answers ++ [(call, .ok (some (.granted grant)))]) :=
      ⟨call, grant, List.mem_concat_self⟩
    exact ⟨fun _ => hstore.kept _ _ _ hsave, fun hnone => absurd hsome hnone⟩
  | failed offer next e place _ _ _ hsave => exact h.keep nofun rfl (hstore.refused _ _ _ _ hsave)

/-! ### The answers for one lesson -/

/-- The answers of calls whose saves have failed. -/
def failures (errors : List ε) : List (Receipt ε) :=
  errors.map fun e => .error (.store e)

/-- Failures, a grant of what the lesson is worth, and no further reward. -/
def GrantedAfter (offer : Course × CourseLesson) (answers : List (Receipt ε)) : Prop :=
  ∃ errors grant repeats, grant.xpGained = offer.2.xp ∧
    answers = failures errors ++
      .ok (some (.granted grant)) :: List.replicate repeats (.ok (some .alreadyCompleted))

/-- Where a lesson stands that was open at the beginning: it is still open and there were failures
alone, or it is completed and was granted once. -/
def GrantedOnce (offer : Course × CourseLesson) (record : Record) (answers : List (Receipt ε)) : Prop :=
  offer ∉ completed record ∧ (∃ errors, answers = failures errors) ∨
    offer ∈ completed record ∧ GrantedAfter offer answers

/-- The answers for a lesson that was completed at the beginning. -/
def NotGranted (answers : List (Receipt ε)) : Prop :=
  ∃ repeats, answers = List.replicate repeats (.ok (some .alreadyCompleted))

lemma answersFor_append (answers : List (Completion × Receipt ε)) (call : Completion)
    (answer : Receipt ε) : answersFor offer (answers ++ [(call, answer)]) =
      answersFor offer answers ++ if call.named? = some offer then [answer] else [] := by
  unfold answersFor
  rw [List.filter_append, List.map_append]
  by_cases hnamed : call.named? = some offer
  · simp [hnamed]
  · simp [hnamed]

lemma answersFor_other (hnamed : call.named? ≠ some offer) :
    answersFor offer (answers ++ [(call, answer)]) = answersFor offer answers := by
  rw [answersFor_append, if_neg hnamed, List.append_nil]

lemma xpGained_eq {course : Course} {lesson : CourseLesson} {record next : Record} {time : Instant}
    {grant : Grant} (h : record.complete? course lesson time = some (next, grant)) :
    grant.xpGained = lesson.xp := by
  rw [complete?_eq record (course, lesson)] at h
  obtain ⟨_, -, hgrant⟩ := Option.map_eq_some_iff.mp h
  cases hgrant
  rfl

lemma GrantedAfter.repeat {given : List (Receipt ε)} (h : GrantedAfter offer given) :
    GrantedAfter offer (given ++ [.ok (some .alreadyCompleted)]) := by
  obtain ⟨errors, grant, repeats, hxp, rfl⟩ := h
  refine ⟨errors, grant, repeats + 1, hxp, ?_⟩
  rw [List.append_assoc, List.cons_append, ← List.replicate_succ']

lemma NotGranted.step (h : NotGranted (answersFor offer answers))
    (hdone : offer ∈ completed last.record) (hcall : Attempted store call last answer after) :
    NotGranted (answersFor offer (answers ++ [(call, answer)])) := by
  by_cases hnamed : call.named? = some offer
  · obtain ⟨repeats, hrepeats⟩ := h
    rw [answersFor_append, if_pos hnamed, hrepeats]
    cases hcall with
    | unknown hunknown => cases hunknown.symm.trans hnamed
    | repeated => exact ⟨repeats + 1, List.replicate_succ'.symm⟩
    | granted other _ _ _ hother hnew =>
      cases hother.symm.trans hnamed
      exact absurd hdone hnew
    | failed other _ _ _ hother hnew =>
      cases hother.symm.trans hnamed
      exact absurd hdone hnew
  · rw [answersFor_other hnamed]
    exact h

lemma GrantedOnce.step (h : GrantedOnce offer last.record (answersFor offer answers))
    (hcall : Attempted store call last answer after) :
    GrantedOnce offer after.record (answersFor offer (answers ++ [(call, answer)])) := by
  by_cases hnamed : call.named? = some offer
  · rw [answersFor_append, if_pos hnamed]
    cases hcall with
    | unknown hunknown => cases hunknown.symm.trans hnamed
    | repeated other hother hdone =>
      cases hother.symm.trans hnamed
      obtain ⟨hnew, -⟩ | ⟨-, hgranted⟩ := h
      · exact absurd hdone hnew
      · exact .inr ⟨hdone, hgranted.repeat⟩
    | granted other next grant place hother hnew hcomplete hnext =>
      cases hother.symm.trans hnamed
      obtain ⟨-, errors, herrors⟩ | ⟨hdone, -⟩ := h
      · have hdone := (mem_completed_next hnext (named?_mem hnamed) hnew).mpr (.inl rfl)
        exact .inr ⟨hdone, errors, grant, 0, xpGained_eq hcomplete, by rw [herrors]; rfl⟩
      · exact absurd hdone hnew
    | failed other next e place hother hnew =>
      cases hother.symm.trans hnamed
      obtain ⟨-, errors, herrors⟩ | ⟨hdone, -⟩ := h
      · refine .inl ⟨hnew, errors ++ [e], ?_⟩
        rw [herrors, failures, failures, List.map_append]
        rfl
      · exact absurd hdone hnew
  · have hsame : offer ∈ completed after.record ↔ offer ∈ completed last.record := by
      cases hcall with
      | unknown => rfl
      | repeated => rfl
      | granted other next grant place hother hnew _ hnext =>
        rw [mem_completed_next hnext (named?_mem hother) hnew, or_iff_right]
        rintro rfl
        exact hnamed hother
      | failed => rfl
    rw [answersFor_other hnamed, GrantedOnce, hsame]
    exact h

/-! ### Calls without those that have failed -/

/-- A store in memory, which never fails, comes to the same rewards and the same record by the calls
that have not failed. -/
structure Replayed (start : Record) (answers : List (Completion × Receipt ε)) (record : Record) :
    Prop where
  same_record : (tracked ⟨none, start⟩ (answeredCalls answers)).record = record
  same_rewards : upshots ⟨none, start⟩ (answeredCalls answers) = (rewards answers).map .ok

lemma Attempted.carryOut {reward : Option Reward} {tracker : Tracker (Option Record)}
    (h : Attempted store call last (.ok reward) after) (hrecord : tracker.record = last.record) :
    (call.carryOut tracker).1 = .ok reward ∧ (call.carryOut tracker).2.record = after.record := by
  obtain ⟨scenario, id, hnamed, hcarried⟩ := carryOut_eq call tracker
  rw [hcarried]
  cases h with
  | unknown hunknown =>
    rw [complete_unknown (hnamed.symm.trans hunknown)]
    exact ⟨rfl, hrecord⟩
  | repeated offer hoffer hdone =>
    rw [← hrecord, mem_completed_iff (named?_mem hoffer)] at hdone
    rw [complete_repeated (hnamed.symm.trans hoffer) hdone]
    exact ⟨rfl, hrecord⟩
  | granted offer next grant place hoffer hnew hcomplete =>
    rw [← hrecord, mem_completed_iff (named?_mem hoffer)] at hnew
    rw [← hrecord] at hcomplete
    rw [complete_commits (hnamed.symm.trans hoffer) hnew hcomplete]
    exact ⟨rfl, rfl⟩

lemma Replayed.step {record : Record} (h : Replayed record answers last.record)
    (hcall : Attempted store call last answer after) :
    Replayed record (answers ++ [(call, answer)]) after.record := by
  cases answer with
  | error e =>
    have hrecord : after.record = last.record := by
      cases hcall
      rfl
    have hcalls : answeredCalls (answers ++ [(call, .error e)]) = answeredCalls answers := by
      simp [answeredCalls, Except.toOption]
    have hrewards : rewards (answers ++ [(call, .error e)]) = rewards answers := by
      simp [rewards, Except.toOption]
    rw [hrecord]
    exact ⟨hcalls ▸ h.same_record, hcalls ▸ hrewards ▸ h.same_rewards⟩
  | ok reward =>
    have hcalls : answeredCalls (answers ++ [(call, .ok reward)]) = answeredCalls answers ++ [call] := by
      simp [answeredCalls, Except.toOption]
    have hrewards : rewards (answers ++ [(call, .ok reward)]) = rewards answers ++ [reward] := by
      simp [rewards, Except.toOption]
    obtain ⟨hupshot, hnext⟩ := hcall.carryOut h.same_record
    constructor
    · rw [hcalls, tracked_append]
      exact hnext
    · rw [hcalls, hrewards, upshots_append, h.same_rewards, hupshot, List.map_append]
      rfl

lemma load_eq_ok {place : σ} (h : Tracker.load store place = .ok start) : start.place = place := by
  unfold Tracker.load at h
  cases hload : store.load place with
  | error e =>
    rw [hload] at h
    cases h
  | ok kept =>
    rw [hload] at h
    cases h
    rfl

/-- An open lesson is granted if the store keeps the record with it, and fails with the store if not. -/
lemma open_decided (hspace : HasSpace last.record) (hoffer : call.named? = some offer)
    (hnew : offer ∉ completed last.record) :
    ∃ next, Follows last.record offer call.time next ∧
      (∀ place, store.save next last.place = (.ok (), place) →
        (∃ grant, (call.over store last).1 = .ok (some (.granted grant))) ∧
          (call.over store last).2 = ⟨place, next⟩) ∧
      (∀ e place, store.save next last.place = (.error e, place) →
        call.over store last = (.error (.store e), ⟨place, last.record⟩)) := by
  have hcall := attempted store call hspace
  cases hover : call.over store last with
  | mk answer after =>
    rw [hover] at hcall
    cases hcall with
    | unknown hunknown => cases hunknown.symm.trans hoffer
    | repeated other hother hdone =>
      cases hother.symm.trans hoffer
      exact absurd hdone hnew
    | granted other next grant place hother _ _ hnext hsave =>
      cases hother.symm.trans hoffer
      refine ⟨next, hnext, fun _ hkept => ?_, fun e _ hfailed => ?_⟩
      · cases hsave.symm.trans hkept
        exact ⟨⟨grant, rfl⟩, rfl⟩
      · cases hsave.symm.trans hfailed
    | failed other next e place hother _ hnext hsave =>
      cases hother.symm.trans hoffer
      refine ⟨next, hnext, fun _ hkept => ?_, fun _ _ hfailed => ?_⟩
      · cases hsave.symm.trans hkept
      · cases hsave.symm.trans hfailed
        rfl

lemma record_of_failure (hspace : HasSpace last.record) {e : Setback ε}
    (h : (call.over store last).1 = .error e) :
    (∃ cause, e = .store cause) ∧ (call.over store last).2.record = last.record := by
  have hcall := attempted store call hspace
  rw [h] at hcall
  generalize (call.over store last).2 = after at hcall ⊢
  cases hcall with
  | failed offer next cause place => exact ⟨⟨cause, rfl⟩, rfl⟩

end

/-- A tracker that has loaded a record with room in its counts works over a store whose saves fail in
whatever pattern. After any calls it has the record that was saved last, or the loaded one. A call that
fails has failed with the store and leaves the record as it was. An open lesson is granted exactly if
the store keeps the record with it, so the calls for it fail any number of times, are granted at most
once what the lesson is worth, and earn nothing afterwards. Experience and stars are those at the
beginning and those of what has been completed since, and the calls that have failed might as well not
have been made. -/
theorem rewards_granted_once {store : Store σ ε} (hstore : Steadfast store) {place : σ}
    {start : Tracker σ} (hload : Tracker.load store place = .ok start)
    (hxp : start.record.totalXp.toNat < 2 ^ 31) (hstars : start.record.stars.toNat < 2 ^ 31)
    (calls : List Completion) :
    let answers := answered store start calls
    let last := trackedOver store start calls
    (SomeGranted answers → store.load last.place = .ok (some last.record)) ∧
    (¬SomeGranted answers →
      last.record = start.record ∧ store.load last.place = store.load place) ∧
    (∀ (call : Completion) (e : Setback ε), (call.over store last).1 = .error e →
      (∃ cause, e = .store cause) ∧ (call.over store last).2.record = last.record) ∧
    (∀ (call : Completion) (offer : Course × CourseLesson), call.named? = some offer →
      offer ∉ completed last.record →
      ∃ next, Follows last.record offer call.time next ∧
        (∀ place, store.save next last.place = (.ok (), place) →
          (∃ grant, (call.over store last).1 = .ok (some (.granted grant))) ∧
            (call.over store last).2 = ⟨place, next⟩) ∧
        (∀ e place, store.save next last.place = (.error e, place) →
          call.over store last = (.error (.store e), ⟨place, last.record⟩))) ∧
    (∀ offer ∈ catalog, offer ∉ completed start.record →
      GrantedOnce offer last.record (answersFor offer answers)) ∧
    (∀ offer ∈ completed start.record, NotGranted (answersFor offer answers)) ∧
    last.record.totalXp.toNat =
      start.record.totalXp.toNat + worthOf (gained start.record last.record) ∧
    (∃ more : List Scenario, last.record.completedCourses = start.record.completedCourses ++ more ∧
      more.Nodup ∧ (∀ scenario, scenario ∈ more ↔ IsNewCourse start.record last.record scenario) ∧
      last.record.stars.toNat = start.record.stars.toNat + more.length) ∧
    Replayed start.record answers last.record := by
  intro answers last
  have hgrown : Grown start.record last.record := grown_trackedOver store hxp hstars calls
  have hspace : HasSpace last.record := hgrown.hasSpace hxp hstars
  have hheld : HeldBy store start answers last := by
    refine answered_induction (motive := HeldBy store start) hxp hstars ?_ ?_ calls
    · refine ⟨?_, fun _ => ⟨rfl, rfl⟩⟩
      rintro ⟨_, _, hmem⟩
      cases hmem
    · exact fun _ _ _ _ _ _ hbefore hcall => hbefore.step hstore hcall
  have hopen : ∀ offer ∈ catalog, offer ∉ completed start.record →
      GrantedOnce offer last.record (answersFor offer answers) := by
    intro offer _ hnew
    refine answered_induction (motive := fun answers last =>
      GrantedOnce offer last.record (answersFor offer answers)) hxp hstars ?_ ?_ calls
    · exact .inl ⟨hnew, [], rfl⟩
    · exact fun _ _ _ _ _ _ hbefore hcall => hbefore.step hcall
  have hdone : ∀ offer ∈ completed start.record, NotGranted (answersFor offer answers) := by
    intro offer hoffer
    refine answered_induction (motive := fun answers _ => NotGranted (answersFor offer answers))
      hxp hstars ⟨0, rfl⟩ ?_ calls
    exact fun _ _ _ _ _ hsince hbefore hcall => hbefore.step (hsince.lessons hoffer) hcall
  have hreplayed : Replayed start.record answers last.record := by
    refine answered_induction (motive := fun answers last =>
      Replayed start.record answers last.record) hxp hstars ⟨rfl, rfl⟩ ?_ calls
    exact fun _ _ _ _ _ _ hbefore hcall => hbefore.step hcall
  refine ⟨hheld.saved, fun hnone => ?_, fun call e => record_of_failure hspace,
    fun call offer => open_decided hspace, hopen, hdone, hgrown.worthOf_gained, hgrown.listed, hreplayed⟩
  rw [← load_eq_ok hload]
  exact hheld.unsaved hnone

/-- A store in memory that refuses a save wherever its plan says so. -/
def moody : Store (List Bool × Option Record) String where
  load place := .ok place.2
  save record place :=
    match place.1 with
    | true :: plan => (.error "refused", (plan, place.2))
    | plan => (.ok (), (plan.tail, some record))

lemma moody_steadfast : Steadfast moody where
  kept record place next h := by
    obtain ⟨plan, held⟩ := place
    match plan with
    | true :: plan => cases h
    | false :: plan => cases h; rfl
    | [] => cases h; rfl
  refused record place e next h := by
    obtain ⟨plan, held⟩ := place
    match plan with
    | true :: plan => cases h; rfl
    | false :: plan => cases h
    | [] => cases h

/-- Three lessons of a course are completed, and the fourth has to be tried three times. -/
def studious : Record where
  totalXp := 45
  level := 1
  completedLessons := .ofList [("programming_basic_output", ⟨1, 0⟩), ("programming_variables", ⟨2, 0⟩),
    ("programming_conditions", ⟨3, 0⟩)]
  completedCourses := []
  stars := 0

def retries : List Completion :=
  [.lesson .programming "loops" ⟨4, 0⟩, .lesson .game "scoring" ⟨5, 0⟩,
    .lesson .programming "loops" ⟨6, 0⟩, .lesson .programming "loops" ⟨7, 0⟩,
    .lesson .programming "loops" ⟨8, 0⟩, .current .programming ⟨9, 0⟩]

/-- The saves that are refused are the first and the third. -/
def refusals : List Bool × Option Record :=
  ([true, false, true], some studious)

theorem retried_loops_granted_once :
    let last := trackedOver moody ⟨refusals, studious⟩ retries
    moody.load last.place = .ok (some last.record) ∧
      (∃ offer, offer? .programming "loops" = some offer ∧
        GrantedAfter offer (answersFor offer (answered moody ⟨refusals, studious⟩ retries))) ∧
      last.record.totalXp.toNat = 45 + worthOf (gained studious last.record) ∧
      last.record.totalXp.toNat = 95 := by
  intro last
  have hload : Tracker.load moody refusals = .ok ⟨refusals, studious⟩ := rfl
  obtain ⟨hsaved, -, -, -, hopen, -, hxp, -, -⟩ :=
    rewards_granted_once moody_steadfast hload (by decide) (by decide) retries
  have hgranted : SomeGranted (answered moody ⟨refusals, studious⟩ retries) := by
    have hanswer : .ok (some (.granted ⟨25, 95, 1, false, true, 1⟩)) ∈
        (answered moody ⟨refusals, studious⟩ retries).map Prod.snd := by decide +kernel
    obtain ⟨⟨call, answer⟩, hmem, rfl⟩ := List.mem_map.mp hanswer
    exact ⟨call, _, hmem⟩
  have hdecided : ∃ offer, offer? .programming "loops" = some offer ∧ offer ∉ completed studious ∧
      offer ∈ completed last.record := by
    refine ⟨(offer? .programming "loops").get (by decide +kernel), ?_, ?_, ?_⟩
    · exact (Option.some_get _).symm
    · decide +kernel
    · decide +kernel
  obtain ⟨offer, hoffer, hnew, hdone⟩ := hdecided
  refine ⟨hsaved hgranted, ⟨offer, hoffer, ?_⟩, hxp, by decide +kernel⟩
  obtain ⟨hnot, -⟩ | ⟨-, hgrant⟩ := hopen offer (offer?_mem hoffer) hnew
  · exact absurd hdone hnot
  · exact hgrant

end Microworlds.Proofs
