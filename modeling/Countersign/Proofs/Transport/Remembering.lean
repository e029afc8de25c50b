import Countersign.Proofs.Transport.Answering

/-!
# What an exchange leaves remembered

An exchange changes what is remembered at most for the origin of its request, and only if the
request was sent again with a handle and that was answered: then the handle is remembered, or
nothing if the answer asks for credentials once more.  However else an exchange ends, what was
remembered stays.
-/

namespace Countersign
namespace Exchange

variable {Conf State : Type} {schemes : Schemes Conf State} {wire : Wire}
  {scene : Scene Conf State} {request : Request} {account : Account Conf State}

/-- A request as it is sent again with a handle. -/
def renewal (wire : Wire) (scene : Scene Conf State) (request : Request) (handle : Handle) :
    Request :=
  (remnant wire scene request).withAuthorization handle.headerValue

/-- Whether a request is challenged, sent again with a handle and then answered. -/
structure IsRenewed (schemes : Schemes Conf State) (wire : Wire) (scene : Scene Conf State)
    (request : Request) (handle : Handle) (response : Response) : Prop where
  offered : ∃ first, IsChallenged wire scene request first ∧
    (schemes first.challenges scene.1.config scene.2).result = .ok (some handle)
  different : attached? scene request ≠ some handle.headerValue
  closable : wire.unclosable = none
  sendable : Ascii.fault? handle.headerValue = none
  answered : wire.answer .second (renewal wire scene request handle) = .ok response

/-- What is remembered after a request to an origin was sent again with a handle. -/
def lesson (remembered : Table Origin Handle) (origin : Origin) (handle : Handle)
    (response : Response) : Table Origin Handle :=
  if response.status = 401 then remembered.erase origin else remembered.insert origin handle

theorem find?_lesson (remembered : Table Origin Handle) (origin : Origin) (handle : Handle)
    (response : Response) :
    (lesson remembered origin handle response).find? origin =
      if response.status = 401 then none else some handle := by
  rw [lesson]
  split <;> simp

theorem find?_lesson_of_ne (remembered : Table Origin Handle) {origin other : Origin}
    (different : other ≠ origin) (handle : Handle) (response : Response) :
    (lesson remembered origin handle response).find? other = remembered.find? other := by
  rw [lesson]
  split <;> simp [Table.find?_erase, Table.find?_insert, different]

/-- What an exchange has learnt: nothing, or what the answer to a handle tells about it. -/
inductive Learnt (schemes : Schemes Conf State) (wire : Wire) (scene : Scene Conf State)
    (request : Request) (account : Account Conf State) : Prop
  | nothing : (∀ handle response, ¬IsRenewed schemes wire scene request handle response) →
      (∀ response, (.second, response) ∉ Event.answers account.own) →
      account.scene.1 = scene.1 →
      Learnt schemes wire scene request account
  | answer (handle : Handle) (response : Response) :
      IsRenewed schemes wire scene request handle response →
      (.second, renewal wire scene request handle) ∈ Event.calls account.own →
      (∀ other, (.second, other) ∈ Event.answers account.own ↔ other = response) →
      account.scene.1 = { scene.1 with
        remembered := lesson scene.1.remembered request.url.origin handle response } →
      Learnt schemes wire scene request account

theorem IsChallenged.eq {first other : Response}
    (challenged : IsChallenged wire scene request first)
    (also : IsChallenged wire scene request other) : first = other := by
  have same := challenged.answered.symm.trans also.answered
  cases same
  rfl

/-- The handle is what the schemes say to the first answer. -/
theorem IsRenewed.offer_eq {handle : Handle} {first response : Response}
    (renewed : IsRenewed schemes wire scene request handle response)
    (challenged : IsChallenged wire scene request first)
    {outcome : Outcome State (Option Handle)}
    (consulted : schemes first.challenges scene.1.config scene.2 = outcome) :
    outcome.result = .ok (some handle) := by
  obtain ⟨other, also, offers⟩ := renewed.offered
  rwa [← consulted, challenged.eq also]

theorem IsRenewed.eq {handle other : Handle} {response answer : Response}
    (renewed : IsRenewed schemes wire scene request handle response)
    (also : IsRenewed schemes wire scene request other answer) :
    handle = other ∧ response = answer := by
  obtain ⟨first, challenged, offers⟩ := renewed.offered
  obtain rfl : handle = other := by
    have same := offers.symm.trans (also.offer_eq challenged rfl)
    cases same
    rfl
  have same := renewed.answered.symm.trans also.answered
  cases same
  exact ⟨rfl, rfl⟩

theorem Learnt.of_unchallenged (unchallenged : ∀ first, ¬IsChallenged wire scene request first)
    (unanswered : ∀ response, (.second, response) ∉ Event.answers account.own)
    (same : account.scene.1 = scene.1) : Learnt schemes wire scene request account := by
  refine .nothing (fun handle response renewed => ?_) unanswered same
  obtain ⟨first, challenged, -⟩ := renewed.offered
  exact unchallenged first challenged

-- What an account tells is read off its events.
attribute [local simp] Account.own Event.calls Event.answers challenge filterMap_opening

theorem Performed.learnt (performed : Performed schemes wire scene request account) :
    Learnt schemes wire scene request account := by
  cases performed with
  | passed _ own | unpassed _ own =>
      exact .of_unchallenged (fun _ challenged => own challenged.bare) (by simp) rfl
  | unprepared _ _ unprepared =>
      exact .of_unchallenged (fun _ challenged => unprepared challenged.toIsPrepared) (by simp) rfl
  | unread _ _ unreadable =>
      refine .of_unchallenged (fun _ challenged => ?_) (by simp) rfl
      rw [challenged.readable] at unreadable
      cases unreadable
  | unanswered _ _ _ fails =>
      refine .of_unchallenged (fun _ challenged => ?_) (by simp) rfl
      rw [challenged.answered] at fails
      cases fails
  | settled answer _ _ answered plain =>
      refine .of_unchallenged (fun _ challenged => ?_) (by simp) rfl
      rw [challenged.answered] at answered
      cases answered
      rcases plain with welcome | unchallenged
      · rw [challenged.unauthorized] at welcome
        cases welcome
      · exact challenged.challenged unchallenged
  | broken _ _ _ _ challenged consulted | unhelped _ _ _ challenged consulted =>
      refine .nothing (fun handle response renewed => ?_) (by simp) rfl
      cases renewed.offer_eq challenged consulted
  | repeated _ _ _ _ challenged consulted same =>
      refine .nothing (fun handle response renewed => ?_) (by simp) rfl
      cases renewed.offer_eq challenged consulted
      exact renewed.different same
  | resent first handle _ _ rest challenged consulted different resent =>
      cases resent with
      | unclosable failure fails =>
          refine .nothing (fun other response renewed => ?_) (by simp) rfl
          rw [renewed.closable] at fails
          cases fails
      | unsendable fault _ faulty =>
          refine .nothing (fun other response renewed => ?_) (by simp) rfl
          cases renewed.offer_eq challenged consulted
          rw [renewed.sendable] at faulty
          cases faulty
      | unanswered failure _ _ fails =>
          refine .nothing (fun other response renewed => ?_) (by simp) rfl
          cases renewed.offer_eq challenged consulted
          rw [← renewal, renewed.answered] at fails
          cases fails
      | rejected response closable sendable answered refused =>
          have renewed : IsRenewed schemes wire scene request handle response :=
            { offered := ⟨first, challenged, by rw [consulted]⟩
              different, closable, sendable, answered }
          refine .answer handle response renewed (by simp [renewal]) (by simp) ?_
          have status : response.status = 401 := beq_iff_eq.mp refused
          simp [lesson, status]
      | accepted response closable sendable answered welcome =>
          have renewed : IsRenewed schemes wire scene request handle response :=
            { offered := ⟨first, challenged, by rw [consulted]⟩
              different, closable, sendable, answered }
          refine .answer handle response renewed (by simp [renewal]) (by simp) ?_
          have status : ¬response.status = 401 := beq_eq_false_iff_ne.mp welcome
          simp [lesson, status]

/-- What a request changes of what is remembered. -/
structure Remembers (schemes : Schemes Conf State) (wire : Wire) (scene : Scene Conf State)
    (request : Request) (account : Account Conf State) : Prop where
  config : account.scene.1.config = scene.1.config
  preemptive : account.scene.1.preemptive = scene.1.preemptive
  /-- Of other origins everything is remembered as before. -/
  elsewhere : ∀ origin, origin ≠ request.url.origin →
    account.scene.1.remembered.find? origin = scene.1.remembered.find? origin
  /-- When there is an answer to the request with a handle. -/
  answered : ∀ response, (.second, response) ∈ Event.answers account.own ↔
    ∃ handle, IsRenewed schemes wire scene request handle response
  resent : ∀ handle response, IsRenewed schemes wire scene request handle response →
    (.second, renewal wire scene request handle) ∈ Event.calls account.own
  /-- Whether the handle is remembered is told by that answer. -/
  learned : ∀ handle response, IsRenewed schemes wire scene request handle response →
    account.scene.1.remembered.find? request.url.origin =
      if response.status = 401 then none else some handle
  /-- Without it what was remembered stays. -/
  kept : (∀ response, (.second, response) ∉ Event.answers account.own) →
    account.scene.1.remembered = scene.1.remembered

theorem Learnt.remembers (learnt : Learnt schemes wire scene request account) :
    Remembers schemes wire scene request account := by
  cases learnt with
  | nothing unrenewed unanswered same =>
      exact
        { config := by rw [same]
          preemptive := by rw [same]
          elsewhere := fun _ _ => by rw [same]
          answered := fun response =>
            ⟨fun answered => absurd answered (unanswered response),
              fun ⟨handle, renewed⟩ => absurd renewed (unrenewed handle response)⟩
          resent := fun handle response renewed => absurd renewed (unrenewed handle response)
          learned := fun handle response renewed => absurd renewed (unrenewed handle response)
          kept := fun _ => by rw [same] }
  | answer handle response renewed resent answered learns =>
      exact
        { config := by rw [learns]
          preemptive := by rw [learns]
          elsewhere := fun origin different => by rw [learns, find?_lesson_of_ne _ different]
          answered := by
            intro other
            rw [answered]
            constructor
            · rintro rfl
              exact ⟨handle, renewed⟩
            · rintro ⟨_, also⟩
              exact (also.eq renewed).2
          resent := by
            intro other answer also
            rwa [(also.eq renewed).1]
          learned := by
            intro other answer also
            obtain ⟨rfl, rfl⟩ := also.eq renewed
            rw [learns, find?_lesson]
          kept := fun unanswered => absurd ((answered response).mpr rfl) (unanswered response) }

end Exchange
end Countersign
