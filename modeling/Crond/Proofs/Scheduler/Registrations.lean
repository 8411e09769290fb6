import Crond.Proofs.Scheduler.Conduct

/-
  The registry of a scheduler against the operations that were made on it.

  `surviving` is the rule: the k-th registration of a sequence of operations has the id k, and it
  stays unless a later operation removes that id. It is computed from the operations alone.
  `Filing` says once what an operation does to a registry; `listings_after` takes it along a run.

  Proved: `registry_follows_registrations`, which compares the registry of a new scheduler after
  any operations, with any host, to the rule: in its jobs and their order, in what it finds under
  an id, in the ids that it gave out and in the one that it will give next.
-/

namespace Crond

open Calendar

/-! ## The rule -/

/-- What stays of a job while its task is run: its id, and the schedule it was registered with. -/
structure Listing where
  id : JobId
  schedule : Schedule

namespace Op

def removes (id : JobId) : Op → Bool
  | .unschedule i => i = id
  | _ => false

theorem removes_of_registration {op : Op} {r : Schedule × Task} (h : op.registration? = some r)
    (id : JobId) : op.removes id = false := by
  cases op with
  | unschedule i => simp [registration?] at h
  | _ => rfl

end Op

/-- All that a sequence of operations registers, in order. -/
def registrations (ops : List Op) : List (Schedule × Task) := ops.filterMap Op.registration?

/-- The registrations that are not removed later, numbered on from `k`. -/
def surviving (k : Nat) : List Op → List Listing
  | [] => []
  | op :: ops =>
    match op.registration? with
    | some (schedule, _) =>
      if ops.any (Op.removes ⟨k⟩) then surviving (k + 1) ops
      else ⟨⟨k⟩, schedule⟩ :: surviving (k + 1) ops
    | none => surviving k ops

theorem surviving_registered {op : Op} {schedule : Schedule} {task : Task}
    (h : op.registration? = some (schedule, task)) (k : Nat) (ops : List Op) :
    surviving k (op :: ops) =
      [(⟨⟨k⟩, schedule⟩ : Listing)].filter (fun e => !ops.any (Op.removes e.id)) ++
        surviving (k + 1) ops := by
  rw [surviving, h]
  cases hr : ops.any (Op.removes ⟨k⟩) <;> simp [hr]

theorem surviving_other {op : Op} (h : op.registration? = none) (k : Nat) (ops : List Op) :
    surviving k (op :: ops) = surviving k ops := by
  rw [surviving, h]

theorem le_of_mem_surviving {k : Nat} {ops : List Op} {e : Listing} (h : e ∈ surviving k ops) :
    k ≤ e.id.number := by
  induction ops generalizing k with
  | nil => exact absurd h List.not_mem_nil
  | cons op ops ih =>
    cases hr : op.registration? with
    | none =>
      rw [surviving_other hr] at h
      exact ih h
    | some r =>
      rw [surviving_registered hr, List.mem_append] at h
      rcases h with h | h
      · have he := List.mem_singleton.mp (List.mem_of_mem_filter h)
        subst he
        exact Nat.le_refl k
      · exact Nat.le_of_succ_le (ih h)

/-- The order of registration is the numeric order of the ids. -/
theorem sorted_surviving (k : Nat) (ops : List Op) :
    (surviving k ops).Pairwise fun e e' => e.id.number < e'.id.number := by
  induction ops generalizing k with
  | nil => exact .nil
  | cons op ops ih =>
    cases hr : op.registration? with
    | none =>
      rw [surviving_other hr]
      exact ih k
    | some r =>
      rw [surviving_registered hr, List.pairwise_append]
      refine ⟨(List.pairwise_singleton _ _).filter _, ih (k + 1), fun e he e' he' => ?_⟩
      rw [List.mem_singleton.mp (List.mem_of_mem_filter he)]
      exact le_of_mem_surviving he'

theorem lt_of_mem_surviving {k : Nat} {ops : List Op} {e : Listing} (h : e ∈ surviving k ops) :
    e.id.number < k + (registrations ops).length := by
  induction ops generalizing k with
  | nil => exact absurd h List.not_mem_nil
  | cons op ops ih =>
    cases hr : op.registration? with
    | none =>
      rw [surviving_other hr] at h
      rw [registrations, List.filterMap_cons_none hr]
      exact ih h
    | some r =>
      rw [surviving_registered hr, List.mem_append] at h
      rw [registrations, List.filterMap_cons_some hr, List.length_cons]
      rcases h with h | h
      · have he := List.mem_singleton.mp (List.mem_of_mem_filter h)
        subst he
        exact Nat.lt_add_of_pos_right (Nat.succ_pos _)
      · have hlt := ih h
        unfold registrations at hlt
        omega

theorem JobId.text_eq (k : Nat) : JobId.text ⟨k⟩ = "job" ++ toString k := by
  have hrender : (JobId.mk k).render = ['j', 'o', 'b'] ++ Nat.toDigits 10 k := rfl
  rw [text, hrender, String.ofList_append]
  rfl

/-! ## Listings of a registry -/

def Job.listing (j : Job) : Listing := ⟨j.id, j.schedule⟩

namespace Registry

def listings (r : Registry) : List Listing := r.jobs.map Job.listing

theorem listings_add (r : Registry) (schedule : Schedule) (task : Task) :
    (r.add schedule task).listings = r.listings ++ [⟨⟨r.next⟩, schedule⟩] := List.map_append

theorem listings_remove (r : Registry) (id : JobId) :
    (r.remove id).listings = r.listings.filter fun e => e.id ≠ id := by
  rw [listings, listings, List.filter_map]
  rfl

theorem listings_advance (r : Registry) (t : Moment) : (r.advance t).listings = r.listings := by
  rw [listings, advance, List.map_map]
  refine List.map_congr_left fun j _ => ?_
  by_cases hd : j.isDue t <;> simp [Job.listing, hd]

theorem find?_listing (r : Registry) (id : JobId) :
    (r.find? id).map Job.listing = r.listings.find? fun e => e.id = id := by
  rw [listings, List.find?_map]
  rfl

/-- A job put where the number of its id belongs; if the id is taken, nothing changes. -/
def filed (j : Job) : List Job → List Job
  | [] => [j]
  | i :: rest =>
    if j.id.number < i.id.number then j :: i :: rest
    else if j.id = i.id then i :: rest
    else i :: filed j rest

/-- Behind smaller numbers a job is filed at the end. -/
theorem filed_eq_append {j : Job} {jobs : List Job}
    (h : ∀ i ∈ jobs, i.id.number < j.id.number) : filed j jobs = jobs ++ [j] := by
  induction jobs with
  | nil => rfl
  | cons i rest ih =>
    have hi := h i List.mem_cons_self
    have hid : j.id ≠ i.id := fun he => by rw [he] at hi; omega
    rw [filed, if_neg (by omega), if_neg hid, ih fun i hi => h i (List.mem_cons_of_mem _ hi)]
    rfl

end Registry

/-! ## What an operation does to the registry -/

def Reply.registered? : Reply → Option Job
  | .registered job => some job
  | _ => none

namespace Scheduler

/-- What an operation does to the registry and tells of it: it registers one job, removes an id,
    or leaves ids and schedules as they are. -/
inductive Filing (s : Scheduler) (op : Op) (out : Outcome) : Prop
  | registered {schedule : Schedule} {task : Task}
      (hop : op.registration? = some (schedule, task))
      (hout : out.scheduler.registry = s.registry.add schedule task)
      (hreply : out.reply = .registered (s.registry.nextJob schedule task))
  | removed {id : JobId} (hop : op = .unschedule id)
      (hout : out.scheduler.registry = s.registry.remove id)
      (hreply : out.reply = .removed (s.registry.find? id))
  | kept (hop : op.registration? = none) (hremoves : ∀ id, op.removes id = false)
      (hlistings : out.scheduler.registry.listings = s.registry.listings)
      (hnext : out.scheduler.registry.next = s.registry.next)
      (hreply : out.reply.registered? = none)

theorem Conduct.filing {s : Scheduler} {o : Offer} {op : Op} {out : Outcome}
    (h : s.Conduct o op out) : s.Filing op out := by
  cases h with
  | register hop _ => exact .registered hop rfl rfl
  | refuse hf =>
    refine .kept ?_ (fun _ => rfl) rfl rfl rfl
    simp only [Op.registration?, hf]
  | remove hf => exact .removed rfl rfl (congrArg _ hf.symm)
  | removeUnknown hf =>
    exact .removed rfl (Registry.remove_of_find?_eq_none hf).symm (congrArg _ hf.symm)
  | tick _ _ => exact .kept rfl (fun _ => rfl) (s.registry.listings_advance _) rfl rfl
  | pass _ => exact .kept rfl (fun _ => rfl) (s.registry.listings_advance _) rfl rfl
  | _ => exact .kept rfl (fun _ => rfl) rfl rfl rfl

theorem filing_turn (s : Scheduler) (t : Turn) : s.Filing t.op (s.turn t) :=
  (s.conduct_turn t).filing

namespace Filing

variable {s : Scheduler} {op : Op} {out : Outcome}

theorem of_registration (h : s.Filing op out) {schedule : Schedule} {task : Task}
    (hop : op.registration? = some (schedule, task)) :
    out.scheduler.registry = s.registry.add schedule task ∧
      out.reply = .registered (s.registry.nextJob schedule task) := by
  cases h with
  | registered hop' hout hreply =>
    cases hop.symm.trans hop'
    exact ⟨hout, hreply⟩
  | removed hop' _ _ => simp [hop', Op.registration?] at hop
  | kept hop' _ _ _ _ => exact absurd (hop.symm.trans hop') (by simp)

theorem of_removal (h : s.Filing op out) {id : JobId} (hop : op = .unschedule id) :
    out.scheduler.registry = s.registry.remove id ∧
      out.reply = .removed (s.registry.find? id) := by
  cases h with
  | registered hop' _ _ => simp [hop, Op.registration?] at hop'
  | removed hop' hout hreply =>
    cases hop.symm.trans hop'
    exact ⟨hout, hreply⟩
  | kept _ hremoves _ _ _ =>
    rw [hop] at hremoves
    exact absurd (hremoves id) (by simp [Op.removes])

theorem of_neither (h : s.Filing op out) (hop : op.registration? = none)
    (hremoves : ∀ id, op.removes id = false) :
    out.scheduler.registry.listings = s.registry.listings ∧
      out.scheduler.registry.next = s.registry.next := by
  cases h with
  | registered hop' _ _ => exact absurd (hop.symm.trans hop') (by simp)
  | @removed id hop' _ _ =>
    rw [hop'] at hremoves
    exact absurd (hremoves id) (by simp [Op.removes])
  | kept _ _ hlistings hnext _ => exact ⟨hlistings, hnext⟩

end Filing

/-- An operation tells of a job exactly when it registers one, and that job has the next id. -/
theorem registered?_turn (s : Scheduler) (t : Turn) :
    (s.turn t).reply.registered? =
        t.op.registration?.map (fun r => s.registry.nextJob r.1 r.2) ∧
      (s.turn t).scheduler.registry.next =
        s.registry.next + t.op.registration?.toList.length := by
  cases s.filing_turn t with
  | registered hop hout hreply =>
    rw [hop, hout, hreply]
    exact ⟨rfl, rfl⟩
  | removed hop hout hreply =>
    rw [hout, hreply, hop]
    exact ⟨rfl, rfl⟩
  | kept hop hremoves hlistings hnext hreply =>
    rw [hop, hreply, hnext]
    exact ⟨rfl, rfl⟩

/-! ## Runs -/

/-- The listings after a run are those from before that it does not remove, and behind them the
    registrations of the run that it does not remove again. -/
theorem listings_after (s : Scheduler) (turns : List Turn) :
    (s.after turns).registry.listings =
      s.registry.listings.filter (fun e => !(turns.map Turn.op).any (Op.removes e.id)) ++
        surviving s.registry.next (turns.map Turn.op) := by
  induction turns generalizing s with
  | nil => simp [after, surviving]
  | cons t turns ih =>
    have hrest := ih (s.turn t).scheduler
    have hafter : s.after (t :: turns) = (s.turn t).scheduler.after turns := rfl
    rw [hafter, hrest, List.map_cons]
    cases s.filing_turn t with
    | registered hop hout hreply =>
      rw [hout, Registry.listings_add, List.filter_append, List.append_assoc,
        surviving_registered hop]
      simp only [List.any_cons, Op.removes_of_registration hop, Bool.false_or]
      rfl
    | removed hop hout hreply =>
      rw [hout, Registry.listings_remove, hop, surviving_other rfl, List.filter_filter]
      simp only [List.any_cons, Op.removes, Bool.not_or, Bool.and_comm, eq_comm, decide_not]
      rfl
    | kept hop hremoves hlistings hnext hreply =>
      rw [hlistings, hnext, surviving_other hop]
      simp only [List.any_cons, hremoves, Bool.false_or]

/-- The jobs that a run registers are numbered on from the next id, in the order in which they
    come, whatever is removed between them. -/
theorem registered_replies (s : Scheduler) (turns : List Turn) :
    (s.replies turns).filterMap Reply.registered? =
        (registrations (turns.map Turn.op)).mapIdx
          (fun k r => ⟨⟨s.registry.next + k⟩, r.1, r.2⟩) ∧
      (s.after turns).registry.next =
        s.registry.next + (registrations (turns.map Turn.op)).length := by
  induction turns generalizing s with
  | nil => exact ⟨rfl, rfl⟩
  | cons t turns ih =>
    obtain ⟨hreplies, hlast⟩ := ih (s.turn t).scheduler
    have hafter : s.after (t :: turns) = (s.turn t).scheduler.after turns := rfl
    obtain ⟨hreply, hnext⟩ := s.registered?_turn t
    rw [replies, registrations, List.map_cons, hafter, hlast]
    cases hr : t.op.registration? with
    | none =>
      rw [hr] at hreply hnext
      rw [List.filterMap_cons_none hreply, List.filterMap_cons_none hr, hreplies, hnext]
      exact ⟨rfl, rfl⟩
    | some r =>
      rw [hr] at hreply hnext
      rw [List.filterMap_cons_some hreply, List.filterMap_cons_some hr, hreplies, hnext,
        List.mapIdx_cons, List.length_cons]
      have hshift : ∀ k, s.registry.next + 1 + k = s.registry.next + (k + 1) := fun k => by omega
      simp only [Option.toList_some, List.length_singleton, hshift]
      exact ⟨rfl, rfl⟩

/-! ## The registry and the rule -/

theorem listings_after_new (turns : List Turn) :
    (after {} turns).registry.listings = surviving 0 (turns.map Turn.op) :=
  listings_after {} turns

/-- The jobs of a new scheduler are in the numeric order of their ids, and every id is below the
    number of the registrations so far. -/
theorem sorted_jobs_after_new (turns : List Turn) :
    (after {} turns).registry.jobs.Pairwise (fun j j' => j.id.number < j'.id.number) ∧
      ∀ j ∈ (after {} turns).registry.jobs,
        j.id.number < (registrations (turns.map Turn.op)).length := by
  have hlistings :
      (after {} turns).registry.jobs.map Job.listing = surviving 0 (turns.map Turn.op) :=
    listings_after_new turns
  constructor
  · have hsorted := sorted_surviving 0 (turns.map Turn.op)
    rw [← hlistings, List.pairwise_map] at hsorted
    exact hsorted
  · intro j hj
    have hmem : j.listing ∈ surviving 0 (turns.map Turn.op) := by
      rw [← hlistings]
      exact List.mem_map_of_mem hj
    have hlt := lt_of_mem_surviving hmem
    rwa [Nat.zero_add] at hlt

/-- The registry of a new scheduler after any operations, and what any further operation does to
    it. Ids are numbers without a bound: for a counter of 64 bits, fewer than 2^64 registrations
    are meant. -/
theorem registry_follows_registrations (turns : List Turn) (next : Turn) :
    let ops := turns.map Turn.op
    let s := after {} turns
    let out := s.turn next
    let count := (registrations ops).length
    let kept := surviving 0 ops
    -- The k-th registration got the id k, whatever has been removed.
    (replies {} turns).filterMap Reply.registered? =
      (registrations ops).mapIdx (fun k r => ⟨⟨k⟩, r.1, r.2⟩) ∧
    (∀ k, JobId.text ⟨k⟩ = "job" ++ toString k) ∧
    s.registry.next = count ∧
    -- The registry has those that are not removed, in the numeric order of their ids.
    s.registry.listings = kept ∧
    s.registry.jobs.length = kept.length ∧
    s.registry.jobs.isEmpty = kept.isEmpty ∧
    (∀ id, (s.registry.find? id).map Job.listing = kept.find? fun e => e.id = id) ∧
    s.registry.jobs.Pairwise (fun j j' => j.id.number < j'.id.number) ∧
    -- A registration gets the next id, and its place by that id is the last.
    (∀ schedule task, next.op.registration? = some (schedule, task) →
      let job : Job := ⟨⟨count⟩, schedule, task⟩
      out.reply = .registered job ∧ out.scheduler.registry.next = count + 1 ∧
        out.scheduler.registry.jobs = Registry.filed job s.registry.jobs) ∧
    -- A removal answers with the job that has the id, if there is one, and takes just that one.
    (∀ id, next.op = .unschedule id →
      out.reply = .removed (s.registry.find? id) ∧
        ((s.registry.find? id).isSome ↔ ∃ e ∈ kept, e.id = id) ∧
        out.scheduler.registry.jobs = s.registry.jobs.filter (fun j => j.id ≠ id) ∧
        ((∀ e ∈ kept, e.id ≠ id) → out.scheduler = s ∧ out.effects = [])) ∧
    (∀ expression task fault, next.op = .schedule expression task →
      Schedule.parse expression = .error fault → out = ⟨s, [], .refused fault⟩) ∧
    -- Starting, stopping, ticks and passes leave ids, schedules and the next id as they are.
    (next.op = .start ∨ next.op = .stop ∨ next.op = .tick ∨ (∃ t, next.op = .pass t) →
      out.scheduler.registry.listings = s.registry.listings ∧
        out.scheduler.registry.next = s.registry.next) := by
  intro ops s out count kept
  obtain ⟨hreplies, hnext⟩ := registered_replies {} turns
  have hcount : s.registry.next = count := hnext.trans (Nat.zero_add _)
  have hlistings : s.registry.jobs.map Job.listing = kept := listings_after_new turns
  obtain ⟨hsorted, hbelow⟩ := sorted_jobs_after_new turns
  have hfind : ∀ id, (s.registry.find? id).map Job.listing = kept.find? fun e => e.id = id := by
    intro id
    rw [Registry.find?_listing, ← hlistings]
    rfl
  refine ⟨?_, JobId.text_eq, hcount, hlistings, ?_, ?_, hfind, hsorted, ?_, ?_, ?_, ?_⟩
  · rw [hreplies]
    exact congrArg (List.mapIdx · _) (funext fun k => by rw [Nat.zero_add])
  · rw [← hlistings, List.length_map]
  · rw [← hlistings, List.isEmpty_map]
  · intro schedule task hop job
    obtain ⟨hout, hreply⟩ := (s.filing_turn next).of_registration hop
    have hjob : s.registry.nextJob schedule task = job := by
      rw [Registry.nextJob, hcount]
    refine ⟨hreply.trans (congrArg _ hjob), ?_, ?_⟩
    · rw [hout, ← hcount]
      rfl
    · rw [hout, Registry.filed_eq_append hbelow, ← hjob]
      rfl
  · intro id hop
    obtain ⟨hout, hreply⟩ := (s.filing_turn next).of_removal hop
    have hsome : (s.registry.find? id).isSome ↔ ∃ e ∈ kept, e.id = id := by
      rw [← Option.isSome_map, hfind, List.find?_isSome]
      simp only [decide_eq_true_eq]
    refine ⟨hreply, hsome, congrArg Registry.jobs hout, fun hnone => ?_⟩
    have hf : s.registry.find? id = none := by
      rw [← Option.not_isSome_iff_eq_none, hsome]
      rintro ⟨e, he, hid⟩
      exact hnone e he hid
    have hsame : out = ⟨s, [], .removed none⟩ := (s.conduct_turn next).eq_of_unknown hop hf
    rw [hsame]
    exact ⟨rfl, rfl⟩
  · intro expression task fault hop hfault
    exact (s.conduct_turn next).eq_of_refused hop hfault
  · rintro (hop | hop | hop | ⟨t, hop⟩)
    all_goals exact (s.filing_turn next).of_neither (by rw [hop]; rfl) fun id => by rw [hop]; rfl

/-- Of three registrations, with a refused one between them, the first is removed twice. -/
theorem registry_after_first_removed :
    let always : Schedule := ⟨.any, .any, .any, .any, .any, .any⟩
    let plain (op : Op) : Turn := ⟨op, ⟨Moment.epoch, 1⟩⟩
    let ops : List Op := [.insert always (.reliable "a"),
      .schedule "0 */5 * * * *" (.reliable "b"), .schedule "* * * *" (.reliable "c"),
      .unschedule ⟨0⟩, .start, .tick, .unschedule ⟨0⟩, .insert always (.reliable "d")]
    let s := after {} (ops.map plain)
    s.registry.next = 3 ∧ s.registry.listings.map (fun e => e.id.number) = [1, 2] ∧
    (s.turn (plain (.insert always (.reliable "e")))).reply =
      .registered ⟨⟨3⟩, always, .reliable "e"⟩ ∧
    ((s.registry.find? ⟨0⟩).isSome = false ∧
      (s.turn (plain (.unschedule ⟨0⟩))).scheduler = s ∧
      (s.turn (plain (.unschedule ⟨0⟩))).effects = []) ∧
    s.turn (plain (.schedule "* * * *" (.reliable "f"))) = ⟨s, [], .refused (.fieldCount 4)⟩ ∧
    (s.turn (plain .tick)).scheduler.registry.listings = s.registry.listings := by
  intro always plain ops s
  obtain ⟨_, _, hnext, hlistings, _, _, _, _, hadd, _⟩ :=
    registry_follows_registrations (ops.map plain) (plain (.insert always (.reliable "e")))
  obtain ⟨_, _, _, _, _, _, _, _, _, hremove, _⟩ :=
    registry_follows_registrations (ops.map plain) (plain (.unschedule ⟨0⟩))
  obtain ⟨_, _, _, _, _, _, _, _, _, _, hrefuse, _⟩ :=
    registry_follows_registrations (ops.map plain) (plain (.schedule "* * * *" (.reliable "f")))
  obtain ⟨_, _, _, _, _, _, _, _, _, _, _, hkeep⟩ :=
    registry_follows_registrations (ops.map plain) (plain .tick)
  have hcount : (registrations ((ops.map plain).map Turn.op)).length = 3 := by rfl
  have hids : (surviving 0 ((ops.map plain).map Turn.op)).map (fun e => e.id.number) = [1, 2] := by
    rfl
  have hgone : ∀ e ∈ surviving 0 ((ops.map plain).map Turn.op), e.id ≠ ⟨0⟩ := by
    intro e he hid
    have hmem := List.mem_map_of_mem (f := fun e : Listing => e.id.number) he
    rw [hids, hid] at hmem
    exact absurd hmem (by decide)
  obtain ⟨_, hsome, _, hsame⟩ := hremove ⟨0⟩ rfl
  obtain ⟨htick, _⟩ := hkeep (Or.inr (Or.inr (Or.inl rfl)))
  refine ⟨hnext.trans hcount, ?_, ?_, ⟨?_, hsame hgone⟩, ?_, ?_⟩
  · rw [hlistings]
    exact hids
  · rw [(hadd always (.reliable "e") rfl).1, hcount]
  · rw [Bool.eq_false_iff, Ne, hsome]
    rintro ⟨e, he, hid⟩
    exact hgone e he hid
  · exact hrefuse "* * * *" (.reliable "f") (.fieldCount 4) rfl (by rfl)
  · rw [htick]

end Scheduler

end Crond
