import Countersign.Proofs.Transport.Account

/-!
# How far an exchange goes to have a request answered

An exchange sends its request at most twice and asks its schemes at most once.  Which of this it
does is told by the request, by the first answer and by what the schemes say to it; the second
answer is handed on as it is.
-/

namespace Countersign

namespace Event

/-- The requests that go out among events, each with the time at which it does. -/
def calls (events : List Event) : List (Attempt × Request) :=
  events.filterMap fun
    | sent attempt request => some (attempt, request)
    | _ => none

/-- The responses that come in among events, with what they answer. -/
def answers (events : List Event) : List (Attempt × Response) :=
  events.filterMap fun
    | answered attempt response => some (attempt, response)
    | _ => none

/-- The challenges that the schemes are asked to answer among events. -/
def consultations (events : List Event) : List (List String) :=
  events.filterMap fun
    | consulted challenges => some challenges
    | _ => none

/-- What is closed among events. -/
def closings (events : List Event) : List Attempt :=
  events.filterMap fun
    | closed attempt => some attempt
    | _ => none

/-- An event of which the headers of a second answer have been left out. -/
def blurred : Event → Event
  | answered .second response => answered .second { response with headers := [] }
  | event => event

end Event

/-- The wire on which all second answers have certain headers. -/
def Wire.disguise (headers : Headers) (wire : Wire) : Wire :=
  { wire with
    answer := fun
      | .first, request => wire.answer .first request
      | .second, request => (wire.answer .second request).map ({ · with headers }) }

namespace Exchange

variable {Conf State : Type} {schemes : Schemes Conf State} {wire : Wire}
  {scene : Scene Conf State} {request : Request} {account rest : Account Conf State}

/-- Whether the schemes answer what an exchange asked them with a handle other than what was
attached to its request. -/
def Offers (schemes : Schemes Conf State) (scene : Scene Conf State) (request : Request)
    (own : List Event) (handle : Handle) : Prop :=
  (∃ challenges ∈ Event.consultations own,
      (schemes challenges scene.1.config scene.2).result = .ok (some handle)) ∧
    attached? scene request ≠ some handle.headerValue

theorem noted_of_mem_opening {event : Event} (opened : event ∈ opening scene request) :
    ∃ notice, event = .noted notice := by
  obtain ⟨value, -, rfl⟩ := Option.map_eq_some_iff.mp (Option.mem_toList.mp opened)
  exact ⟨_, rfl⟩

theorem filterMap_opening {Value : Type} {view : Event → Option Value}
    (blind : ∀ notice, view (.noted notice) = none) :
    (opening scene request).filterMap view = [] := by
  rw [List.filterMap_eq_nil_iff]
  intro event opened
  obtain ⟨notice, rfl⟩ := noted_of_mem_opening opened
  exact blind notice

-- What an account tells is read off its events.
attribute [local simp] Account.own Event.calls Event.answers Event.consultations Event.closings
  Offers challenge filterMap_opening

/-- A request is sent once, twice or not at all. -/
theorem Performed.attempts (performed : Performed schemes wire scene request account) :
    (Event.calls account.own).map (·.1) = [] ∨ (Event.calls account.own).map (·.1) = [.first] ∨
      (Event.calls account.own).map (·.1) = [.first, .second] := by
  cases performed with
  | resent _ _ _ _ _ _ _ _ resent =>
      cases resent <;> simp
  | _ => simp

/-- A request is not sent at all only if it cannot be. -/
theorem Performed.calls_eq_nil (performed : Performed schemes wire scene request account) :
    Event.calls account.own = [] ↔
      request.authorization = [] ∧ ¬(IsPrepared scene request ∧ wire.unreadable = none) := by
  cases performed with
  | passed _ own | unpassed _ own => simp [own]
  | unprepared _ bare unprepared => simp [bare, unprepared]
  | unread _ prepared unreadable => simp [prepared.bare, unreadable]
  | unanswered _ prepared readable | settled _ prepared readable => simp [prepared, readable]
  | broken _ _ _ _ challenged | unhelped _ _ _ challenged | repeated _ _ _ _ challenged
  | resent _ _ _ _ _ challenged => simp [challenged.toIsPrepared, challenged.readable]

/-- A request goes out with its own credentials, or with what is attached to it if it has none. -/
theorem Performed.authorization_first (performed : Performed schemes wire scene request account)
    {carried : Request} (called : (.first, carried) ∈ Event.calls account.own) :
    carried.authorization =
      if request.authorization = [] then (attached? scene request).toList
      else request.authorization := by
  have carrying_eq (bare : request.authorization = []) :
      (carrying scene request).buffer.authorization =
        if request.authorization = [] then (attached? scene request).toList
        else request.authorization := by
    rw [Request.authorization_buffer, carrying, if_pos bare]
    cases attached? scene request with
    | none => exact bare
    | some value => exact request.authorization_withAuthorization value
  cases performed with
  | passed _ own | unpassed _ own =>
      simp at called
      rw [called, if_neg own]
  | unprepared | unread => simp at called
  | unanswered _ prepared | settled _ prepared =>
      simp at called
      rw [called, carrying_eq prepared.bare]
  | broken _ _ _ _ challenged | unhelped _ _ _ challenged | repeated _ _ _ _ challenged =>
      simp at called
      rw [called, carrying_eq challenged.bare]
  | resent _ _ _ _ _ challenged _ _ resent =>
      cases resent <;> simp at called <;> rw [called, carrying_eq challenged.bare]

/-- What comes in is what the wire answers to what goes out, and all of that. -/
theorem Performed.mem_answers (performed : Performed schemes wire scene request account)
    (attempt : Attempt) (response : Response) :
    (attempt, response) ∈ Event.answers account.own ↔
      ∃ carried, (attempt, carried) ∈ Event.calls account.own ∧
        wire.answer attempt carried = .ok response := by
  cases performed with
  | passed _ _ answers | settled _ _ _ answers =>
      constructor <;> cases attempt <;> simp [answers, eq_comm]
  | unpassed _ _ fails | unanswered _ _ _ fails => cases attempt <;> simp [fails]
  | unprepared | unread => simp
  | broken _ _ _ _ challenged | unhelped _ _ _ challenged | repeated _ _ _ _ challenged =>
      cases attempt <;> simp [challenged.answered, eq_comm]
  | resent _ _ _ _ _ challenged _ _ resent =>
      cases resent with
      | unclosable | unsendable => cases attempt <;> simp [challenged.answered, eq_comm]
      | unanswered _ _ _ fails => cases attempt <;> simp [challenged.answered, fails, eq_comm]
      | rejected _ _ _ answers | accepted _ _ _ answers =>
          cases attempt <;> simp [challenged.answered, answers, eq_comm]

/-- The schemes are asked if the first answer to a request without credentials asks for some. -/
theorem Performed.mem_consultations (performed : Performed schemes wire scene request account)
    (challenges : List String) :
    challenges ∈ Event.consultations account.own ↔
      request.authorization = [] ∧ ∃ response, (.first, response) ∈ Event.answers account.own ∧
        response.isUnauthorized ∧ response.challenges ≠ [] ∧
          challenges = response.challenges := by
  cases performed with
  | passed _ own | unpassed _ own => simp [own]
  | unprepared | unread | unanswered => simp
  | settled response _ _ _ plain =>
      have stands : response.isUnauthorized → response.challenges = [] := by
        intro unauthorized
        rcases plain with welcome | unchallenged
        · rw [unauthorized] at welcome
          cases welcome
        · exact unchallenged
      simp
      exact fun _ unauthorized challenged => absurd (stands unauthorized) challenged
  | broken _ _ _ _ challenged | unhelped _ _ _ challenged | repeated _ _ _ _ challenged =>
      simp [challenged.bare, challenged.unauthorized, challenged.challenged]
  | resent _ _ _ _ _ challenged _ _ resent =>
      cases resent <;> simp [challenged.bare, challenged.unauthorized, challenged.challenged]

theorem Performed.consultations_length (performed : Performed schemes wire scene request account) :
    (Event.consultations account.own).length ≤ 1 := by
  cases performed with
  | resent _ _ _ _ _ _ _ _ resent =>
      cases resent <;> simp
  | _ => simp

/-- Between asking the schemes and going on happens what the schemes do, given the challenges and
the configuration of the transport. -/
theorem Performed.meanwhile_eq (performed : Performed schemes wire scene request account) :
    account.meanwhile = (Event.consultations account.own).flatMap fun challenges =>
      (schemes challenges scene.1.config scene.2).events := by
  cases performed with
  | broken _ _ _ _ _ consulted | unhelped _ _ _ _ consulted | repeated _ _ _ _ _ consulted =>
      simp [consulted]
  | resent _ _ _ _ _ _ consulted _ resent =>
      cases resent <;> simp [consulted]
  | _ => simp

/-- What the schemes hold is changed only by what they are asked. -/
theorem Performed.scene_eq (performed : Performed schemes wire scene request account) :
    account.scene.2 = (Event.consultations account.own).foldl (fun state challenges =>
      (schemes challenges scene.1.config state).state) scene.2 := by
  cases performed with
  | broken _ _ _ _ _ consulted | unhelped _ _ _ _ consulted | repeated _ _ _ _ _ consulted =>
      simp [consulted]
  | resent _ _ _ _ _ _ consulted _ resent =>
      cases resent <;> simp [consulted]
  | _ => simp

/-- Nothing is closed but the first answer, and that to send a handle in its place. -/
theorem Performed.mem_closings (performed : Performed schemes wire scene request account)
    (attempt : Attempt) :
    attempt ∈ Event.closings account.own ↔
      attempt = .first ∧ wire.unclosable = none ∧
        ∃ handle, Offers schemes scene request account.own handle := by
  cases performed with
  | passed | unpassed | unprepared | unread | unanswered | settled => simp
  | broken _ _ _ _ _ consulted | unhelped _ _ _ _ consulted => simp [consulted]
  | repeated _ _ _ _ _ consulted same => simp [consulted, same]
  | resent _ _ _ _ _ _ consulted different resent =>
      cases resent with
      | unclosable failure fails => simp [fails]
      | unsendable _ closes | unanswered _ closes | rejected _ closes | accepted _ closes =>
          simp [consulted, different, closes]

/-- A request is sent again with a handle that the schemes gave for it and that can be sent. -/
theorem Performed.exists_second (performed : Performed schemes wire scene request account) :
    .second ∈ (Event.calls account.own).map (·.1) ↔
      wire.unclosable = none ∧ ∃ handle, Offers schemes scene request account.own handle ∧
        Ascii.fault? handle.headerValue = none := by
  cases performed with
  | passed | unpassed | unprepared | unread | unanswered | settled => simp
  | broken _ _ _ _ _ consulted | unhelped _ _ _ _ consulted => simp [consulted]
  | repeated _ _ _ _ _ consulted same => simp [consulted, same]
  | resent _ _ _ _ _ _ consulted different resent =>
      cases resent with
      | unclosable failure fails => simp [fails]
      | unsendable _ closes faulty => simp [consulted, faulty]
      | unanswered _ closes sendable | rejected _ closes sendable | accepted _ closes sendable =>
          simp [consulted, closes, and_assoc, different, sendable]

/-- What is returned is the answer to the last call. -/
theorem Performed.returned (performed : Performed schemes wire scene request account)
    {response : Response} (returns : account.result = .ok response) :
    ∃ attempt, ((Event.calls account.own).map (·.1)).getLast? = some attempt ∧
      (attempt, response) ∈ Event.answers account.own ∧
        attempt ∉ Event.closings account.own := by
  cases performed with
  | unpassed | unprepared | unread | unanswered | broken => cases returns
  | passed | settled | unhelped | repeated =>
      cases returns
      exact ⟨.first, by simp⟩
  | resent _ _ _ _ _ _ _ _ resent =>
      cases resent with
      | unclosable | unsendable | unanswered => cases returns
      | rejected | accepted =>
          cases returns
          exact ⟨.second, by simp⟩

/-- What an outcome tells without the headers of a second answer, and without those of what is
returned. -/
def blurred (outcome : Outcome State Exchange) : Outcome State Exchange :=
  { result := outcome.result.map fun exchange =>
      match exchange.stage with
      | .finished (.ok response) => exchange.finish (.ok { response with headers := [] })
      | _ => exchange
    state := outcome.state
    events := outcome.events.map Event.blurred }

theorem blurred_after (events : List Event) (outcome : Outcome State Exchange) :
    blurred (outcome.after events) = (blurred outcome).after (events.map Event.blurred) := by
  simp [blurred, Outcome.after]

/-- Between two waits an exchange does not fail. -/
theorem exists_resume (schemes : Schemes Conf State) (scene : Scene Conf State)
    (exchange : Exchange) (reply : Reply) :
    ∃ next late events, exchange.resume schemes reply scene =
      { result := .ok next, state := late, events } := by
  have resumed := resume_spec schemes scene exchange reply
  generalize exchange.resume schemes reply scene = outcome at resumed
  cases resumed <;> exact ⟨_, _, _, rfl⟩

theorem result_learn (scene : Scene Conf State) (exchange : Exchange) (handle : Handle)
    (response : Response) : (learn exchange handle response scene).result = .ok () := by
  rw [learn]
  split <;> rfl

/-- An exchange that has sent its request with a handle ends with the answer. -/
theorem proceed_resending {exchange : Exchange} {handle : Handle} {response : Response}
    (waiting : exchange.stage = .resending handle)
    (answers : wire.answer .second exchange.request = .ok response) (steps : Nat) :
    proceed schemes wire (steps + 1) exchange scene =
      { result := .ok ((wire.touch exchange).finish (.ok response))
        state := (learn (wire.touch exchange) handle response scene).state
        events := .answered .second response ::
          (learn (wire.touch exchange) handle response scene).events } := by
  obtain ⟨request, origin, stage⟩ := exchange
  obtain rfl : stage = .resending handle := waiting
  apply proceed_of_finished
  rw [Wire.reply]
  simp only [answers, Wire.received, Wire.touch, resume, Action.bind_apply, Action.emit_apply,
    result_learn, Action.pure_apply, List.append_nil]
  rfl

/-- The headers of a second answer make no difference to an exchange that has begun. -/
theorem blurred_proceed (headers : Headers) (steps : Nat) (exchange : Exchange)
    (scene : Scene Conf State) :
    blurred (proceed schemes (wire.disguise headers) steps exchange scene) =
      blurred (proceed schemes wire steps exchange scene) := by
  induction steps generalizing exchange scene with
  | zero => rfl
  | succ steps induction =>
      have touches : (wire.disguise headers).touch exchange = wire.touch exchange := rfl
      have alike (same : (wire.disguise headers).reply exchange = wire.reply exchange) :
          blurred (proceed schemes (wire.disguise headers) (steps + 1) exchange scene) =
            blurred (proceed schemes wire (steps + 1) exchange scene) := by
        obtain ⟨next, late, events, goes⟩ :=
          exists_resume schemes scene (wire.touch exchange) (wire.reply exchange)
        rw [proceed_succ goes, proceed_succ (by rw [touches, same]; exact goes), blurred_after,
          blurred_after, induction]
      rcases waiting : exchange.stage with _ | _ | _ | _ | handle | _
      case resending =>
        cases answers : wire.answer .second exchange.request with
        | error failure =>
            apply alike
            simp [Wire.reply, Wire.disguise, waiting, answers, Except.map]
        | ok response =>
            have disguised : (wire.disguise headers).answer .second exchange.request =
                .ok { response with headers } := by
              simp [Wire.disguise, answers, Except.map]
            -- What is learnt from an answer does not depend on its headers.
            rw [proceed_resending waiting answers, proceed_resending waiting disguised, touches]
            rfl
      all_goals exact alike (by simp [Wire.reply, Wire.disguise, waiting])

/-- The headers of a second answer make no difference. -/
theorem blurred_perform (headers : Headers) (scene : Scene Conf State) (request : Request) :
    blurred (perform schemes (wire.disguise headers) request scene) =
      blurred (perform schemes wire request scene) := by
  obtain ⟨exchange, begun⟩ : ∃ exchange,
      (Exchange.begin request scene).result = .ok exchange := by
    have begun := begin_spec scene request
    generalize Exchange.begin request scene = outcome at begun
    cases begun <;> exact ⟨_, rfl⟩
  rw [perform_eq_proceed, perform_eq_proceed, Action.bind_of_ok begun, Action.bind_of_ok begun,
    blurred_after, blurred_after, blurred_proceed]

/-- A failure of an exchange is that of making its request ready, of its wire, of its schemes, or of
sending what they offered. -/
theorem Performed.raised (performed : Performed schemes wire scene request account)
    {failure : Failure} (fails : account.result = .error failure) :
    Event.calls account.own = [] ∨
      (∃ attempt carried, (attempt, carried) ∈ Event.calls account.own ∧
        wire.answer attempt carried = .error failure) ∨
      (∃ challenges ∈ Event.consultations account.own,
        (schemes challenges scene.1.config scene.2).result = .error failure) ∨
      ∃ handle, Offers schemes scene request account.own handle ∧
        (wire.unclosable = some failure ∨
          ∃ fault, Ascii.fault? handle.headerValue = some fault ∧ failure = .unsendable fault) := by
  cases performed with
  | passed | settled | unhelped | repeated => cases fails
  | unprepared | unread => exact .inl (by simp)
  | unpassed _ _ answers | unanswered _ _ _ answers =>
      cases fails
      exact .inr (.inl ⟨.first, _, by simp, answers⟩)
  | broken _ _ _ _ _ consulted =>
      cases fails
      exact .inr (.inr (.inl (by simp [consulted])))
  | resent _ handle _ _ _ _ consulted different resent =>
      cases resent with
      | rejected | accepted => cases fails
      | unanswered _ _ _ answers =>
          cases fails
          exact .inr (.inl ⟨.second, _, by simp, answers⟩)
      | unclosable _ closes =>
          cases fails
          exact .inr (.inr (.inr ⟨handle, by simp [consulted, different], .inl closes⟩))
      | unsendable fault _ faulty =>
          cases fails
          exact .inr (.inr (.inr
            ⟨handle, by simp [consulted, different], .inr ⟨fault, faulty, rfl⟩⟩))

/-- How far an exchange goes. -/
structure IsBounded (schemes : Schemes Conf State) (wire : Wire) (scene : Scene Conf State)
    (request : Request) (account : Account Conf State) : Prop where
  attempts : (Event.calls account.own).map (·.1) = [] ∨
    (Event.calls account.own).map (·.1) = [.first] ∨
      (Event.calls account.own).map (·.1) = [.first, .second]
  /-- It is sent unless it has no credentials of its own and cannot be made ready or read. -/
  unsent : Event.calls account.own = [] ↔
    request.authorization = [] ∧ ¬(IsPrepared scene request ∧ wire.unreadable = none)
  /-- It first goes out with the credentials that it has, or with what is attached to it. -/
  carried : ∀ carried, (.first, carried) ∈ Event.calls account.own →
    carried.authorization =
      if request.authorization = [] then (attached? scene request).toList
      else request.authorization
  /-- The answers are those of the wire to what goes out. -/
  answered : ∀ attempt response, (attempt, response) ∈ Event.answers account.own ↔
    ∃ carried, (attempt, carried) ∈ Event.calls account.own ∧
      wire.answer attempt carried = .ok response
  once : (Event.consultations account.own).length ≤ 1
  /-- The schemes are asked if it had no credentials of its own and the first answer asks for some.
  -/
  asked : ∀ challenges, challenges ∈ Event.consultations account.own ↔
    request.authorization = [] ∧ ∃ response, (.first, response) ∈ Event.answers account.own ∧
      response.isUnauthorized ∧ response.challenges ≠ [] ∧ challenges = response.challenges
  /-- They are given the challenges and the configuration of the transport. -/
  meanwhile : account.meanwhile = (Event.consultations account.own).flatMap fun challenges =>
    (schemes challenges scene.1.config scene.2).events
  held : account.scene.2 = (Event.consultations account.own).foldl (fun state challenges =>
    (schemes challenges scene.1.config state).state) scene.2
  /-- The first answer is closed once they have offered a handle, and no other answer ever is. -/
  closed : ∀ attempt, attempt ∈ Event.closings account.own ↔
    attempt = .first ∧ wire.unclosable = none ∧
      ∃ handle, Offers schemes scene request account.own handle
  /-- It is sent again after that, if the handle can be sent. -/
  resent : .second ∈ (Event.calls account.own).map (·.1) ↔
    wire.unclosable = none ∧ ∃ handle, Offers schemes scene request account.own handle ∧
      Ascii.fault? handle.headerValue = none
  returned : ∀ response, account.result = .ok response →
    ∃ attempt, ((Event.calls account.own).map (·.1)).getLast? = some attempt ∧
      (attempt, response) ∈ Event.answers account.own ∧
        attempt ∉ Event.closings account.own
  raised : ∀ failure, account.result = .error failure →
    Event.calls account.own = [] ∨
      (∃ attempt carried, (attempt, carried) ∈ Event.calls account.own ∧
        wire.answer attempt carried = .error failure) ∨
      (∃ challenges ∈ Event.consultations account.own,
        (schemes challenges scene.1.config scene.2).result = .error failure) ∨
      ∃ handle, Offers schemes scene request account.own handle ∧
        (wire.unclosable = some failure ∨
          ∃ fault, Ascii.fault? handle.headerValue = some fault ∧ failure = .unsendable fault)

theorem Performed.isBounded (performed : Performed schemes wire scene request account) :
    IsBounded schemes wire scene request account :=
  { attempts := performed.attempts
    unsent := performed.calls_eq_nil
    carried := fun _ => performed.authorization_first
    answered := performed.mem_answers
    once := performed.consultations_length
    asked := performed.mem_consultations
    meanwhile := performed.meanwhile_eq
    held := performed.scene_eq
    closed := performed.mem_closings
    resent := performed.exists_second
    returned := fun _ => performed.returned
    raised := fun _ => performed.raised }

/-- Whatever happens, a request is sent at most twice and the schemes are asked at most once, when
and with what the first answer and the request tell; what is returned is the last answer, whose
headers make no difference if it is the second. -/
theorem perform_isBounded (schemes : Schemes Conf State) (wire : Wire) (scene : Scene Conf State)
    (request : Request) :
    ∃ account : Account Conf State,
      perform schemes wire request scene = account.outcome ∧
        IsBounded schemes wire scene request account ∧
        ∀ headers, blurred (perform schemes (wire.disguise headers) request scene) =
          blurred account.outcome := by
  obtain ⟨account, performed, performs⟩ := exists_performed schemes wire scene request
  refine ⟨account, performs, performed.isBounded, fun headers => ?_⟩
  rw [blurred_perform, performs]

/-- Where the schemes do nothing that can be observed, an exchange did itself all that can be. -/
theorem IsBounded.own_eq (bounded : IsBounded schemes wire scene request account)
    (quiet : ∀ challenges, (schemes challenges scene.1.config scene.2).events = []) :
    account.own = account.outcome.events := by
  have nothing : account.meanwhile = [] := by
    rw [bounded.meanwhile]
    simp [quiet]
  rw [Account.own, Account.outcome, nothing, List.nil_append]

/-- A handle that no header can carry. -/
def accented : Handle :=
  { realm := "café", credentialHeader := "Authorization: Bearer é", headerValue := "Bearer é" }

/-- A request to a host of an intranet. -/
def report : Request :=
  { method := "GET"
    url :=
      { origin := { scheme := "https", host := "intranet.example.com", port := none }
        host := "intranet.example.com", user := "", path := "/reports", query := none
        fragment := none, fault := none }
    headers := []
    body := .whole [] }

/-- A scene with nothing but an empty transport. -/
def clearing : Scene Unit Unit :=
  ({ config := none, preemptive := true, remembered := Table.empty }, ())

/-- Schemes that answer all challenges with one handle. -/
def offering (handle : Handle) : Schemes Unit Unit := fun _ _ => pure (some handle)

/-- A wire that refuses the first request, for want of a bearer, and grants the second. -/
def doubtful : Wire :=
  .scripted [.ok { status := 401, headers := [(challengeHeader, "Bearer")] },
    .ok { status := 200, headers := [(challengeHeader, "Bearer")] }]

/-- With a handle that can be sent the request is sent twice, the schemes are asked once, and the
first answer is closed. -/
theorem perform_isBounded_doubtful :
    ∃ account : Account Unit Unit,
      perform (offering { accented with headerValue := "Bearer e" }) doubtful report clearing =
          account.outcome ∧
        IsBounded (offering { accented with headerValue := "Bearer e" }) doubtful clearing report
          account ∧
        (Event.calls account.own).map (fun call => (call.1, call.2.authorization)) =
          [(.first, []), (.second, ["Bearer e"])] ∧
        Event.consultations account.own = [["Bearer"]] ∧
        Event.closings account.own = [.first] := by
  obtain ⟨account, performs, bounded, -⟩ := perform_isBounded
    (offering { accented with headerValue := "Bearer e" }) doubtful clearing report
  have events_eq := bounded.own_eq fun _ => rfl
  refine ⟨account, performs, bounded, ?_⟩
  rw [events_eq, ← performs]
  decide +kernel

/-- The outcome of a request that is challenged once, with schemes that offer a handle that cannot
be sent. -/
def thwarted : Outcome (Scene Unit Unit) Exchange :=
  perform (offering accented) doubtful report clearing

/-- With such a handle the first answer is closed and the request is not sent again. -/
theorem closings_thwarted :
    Event.consultations thwarted.events = [["Bearer"]] ∧
      .granted accented ∈ thwarted.events ∧
      Event.closings thwarted.events = [.first] ∧
      (Event.calls thwarted.events).map (fun call => (call.1, call.2.authorization)) =
        [(.first, [])] := by
  decide +kernel

end Exchange
end Countersign
