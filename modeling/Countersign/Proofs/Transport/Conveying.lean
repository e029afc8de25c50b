import Countersign.Proofs.Transport.Remembering

/-!
# What goes out with a request

A request goes out as the caller made it but for its credentials: its own if it has any, else what
is remembered for its origin.  It goes out again as it then is, but with the credentials that answer
the challenge.  Content that can be read only once is held as bytes before it goes out, so all of it
goes out again unless what carries the request changes it.
-/

namespace Countersign

namespace Request

/-- The headers of a request other than the one that carries credentials. -/
def otherHeaders (request : Request) : Headers :=
  request.headers.filter fun header => !Headers.sameName header.1 authorizationHeader

/-- Whether a request has everything of another one but its credentials, with the content in a form
of its own. -/
structure Conveys (carried request : Request) : Prop where
  method : carried.method = request.method
  url : carried.url = request.url
  content : carried.body.bytes = request.body.bytes
  headers : carried.otherHeaders = request.otherHeaders

@[simp]
theorem otherHeaders_withAuthorization (request : Request) (value : String) :
    (request.withAuthorization value).otherHeaders = request.otherHeaders :=
  Headers.filter_replace request.headers authorizationHeader value

variable {carried middle request : Request}

theorem Conveys.refl (request : Request) : request.Conveys request :=
  { method := rfl, url := rfl, content := rfl, headers := rfl }

theorem Conveys.trans (late : carried.Conveys middle) (early : middle.Conveys request) :
    carried.Conveys request :=
  { method := late.method.trans early.method
    url := late.url.trans early.url
    content := late.content.trans early.content
    headers := late.headers.trans early.headers }

theorem Conveys.buffer (conveys : carried.Conveys request) : carried.buffer.Conveys request :=
  { conveys with }

theorem Conveys.withAuthorization (conveys : carried.Conveys request) (value : String) :
    (carried.withAuthorization value).Conveys request :=
  { conveys with headers := by rw [otherHeaders_withAuthorization, conveys.headers] }

end Request

/-- The wire that puts credentials of its own on whatever it carries, as a transport does that
answers challenges itself. -/
def Wire.meddle (value : String) (wire : Wire) : Wire :=
  { wire with left := fun _ request => request.withAuthorization value }

namespace Exchange

variable {Conf State : Type} {schemes : Schemes Conf State} {wire : Wire}
  {scene : Scene Conf State} {request carried : Request} {account : Account Conf State}

theorem conveys_carrying (scene : Scene Conf State) (request : Request) :
    (carrying scene request).Conveys request := by
  rw [carrying]
  cases attached? scene request with
  | none => exact .refl request
  | some value => exact (Request.Conveys.refl request).withAuthorization value

/-- What is remembered for the origin of a request, if it is to be used. -/
theorem attached?_eq (scene : Scene Conf State) (request : Request) :
    attached? scene request =
      if scene.1.preemptive then
        (scene.1.remembered.find? request.url.origin).map (·.headerValue)
      else none := by
  rw [attached?, attachment]
  split <;> rfl

-- What an account tells is read off its events.
attribute [local simp] Account.own Event.calls Event.answers challenge filterMap_opening

/-- The first time, a request goes out as it is if it has credentials, and otherwise with what is
attached to it and with its content held as a text. -/
theorem Performed.first_call (performed : Performed schemes wire scene request account)
    (called : (.first, carried) ∈ Event.calls account.own) :
    carried = if request.authorization = [] then (carrying scene request).buffer else request := by
  cases performed with
  | passed _ own | unpassed _ own => simpa [own] using called
  | unprepared | unread => simp at called
  | unanswered _ prepared | settled _ prepared => simpa [prepared.bare] using called
  | broken _ _ _ _ challenged | unhelped _ _ _ challenged | repeated _ _ _ _ challenged =>
      simpa [challenged.bare] using called
  | resent _ _ _ _ _ challenged _ _ resent =>
      cases resent <;> simpa [challenged.bare] using called

/-- The second time, what has become of it goes out with the header value of the handle that answers
the challenge. -/
theorem Performed.second_call (performed : Performed schemes wire scene request account)
    (called : (.second, carried) ∈ Event.calls account.own) :
    ∃ response handle, request.authorization = [] ∧
      (.first, (carrying scene request).buffer) ∈ Event.calls account.own ∧
        (.first, response) ∈ Event.answers account.own ∧
        (schemes response.challenges scene.1.config scene.2).result = .ok (some handle) ∧
        carried = renewal wire scene request handle := by
  cases performed with
  | passed | unpassed | unprepared | unread | unanswered | settled | broken | unhelped
  | repeated => simp at called
  | resent response handle _ _ _ challenged consulted _ resent =>
      refine ⟨response, handle, challenged.bare, ?_, ?_, by rw [consulted], ?_⟩
      · cases resent <;> simp
      · cases resent <;> simp
      · cases resent with
        | unclosable | unsendable => simp at called
        | unanswered | rejected | accepted => simpa [renewal] using called

/-- Afterwards a request is what its last sending has left of it. -/
theorem Performed.request_eq (performed : Performed schemes wire scene request account)
    {attempt : Attempt} (last : (Event.calls account.own).getLast? = some (attempt, carried)) :
    account.request = wire.left attempt carried := by
  cases performed with
  | unprepared | unread => simp at last
  | passed | unpassed | unanswered | settled | broken | unhelped | repeated =>
      obtain ⟨rfl, rfl⟩ := by simpa using last
      rfl
  | resent _ _ _ _ _ _ _ _ resent =>
      cases resent <;>
      · obtain ⟨rfl, rfl⟩ := by simpa using last
        rfl

/-- How the requests that an exchange sends, and the one that it leaves, stand to the one that it
was given. -/
structure IsFaithful (schemes : Schemes Conf State) (wire : Wire) (scene : Scene Conf State)
    (request : Request) (account : Account Conf State) : Prop where
  /-- The first time the request goes out with its method, its address, all of its content and all
  other headers, and with its own credentials or else with what is remembered. -/
  first : ∀ carried, (.first, carried) ∈ Event.calls account.own →
    carried.Conveys request ∧
      carried.authorization =
        if request.authorization = [] then
          if scene.1.preemptive then
            ((scene.1.remembered.find? request.url.origin).map (·.headerValue)).toList
          else []
        else request.authorization
  /-- With credentials of its own it goes out only once, and is not touched. -/
  own : request.authorization ≠ [] → ∀ attempt carried,
    (attempt, carried) ∈ Event.calls account.own → attempt = .first ∧ carried = request
  /-- Without, all its content has been read and is held as bytes when it goes out. -/
  held : request.authorization = [] → ∀ carried, (.first, carried) ∈ Event.calls account.own →
    carried.body = .whole request.body.bytes
  /-- The second time what the first sending has left of it goes out with the header value of the
  handle that answers the challenge, and with no other. -/
  second : ∀ carried, (.second, carried) ∈ Event.calls account.own →
    ∃ sent response handle,
      (.first, sent) ∈ Event.calls account.own ∧
        (.first, response) ∈ Event.answers account.own ∧
        (schemes response.challenges scene.1.config scene.2).result = .ok (some handle) ∧
        carried = (wire.left .first sent).withAuthorization handle.headerValue ∧
        carried.authorization = [handle.headerValue]
  /-- So it goes out unchanged both times if the first sending changes nothing but credentials. -/
  conveys : (∀ sent, (.first, sent) ∈ Event.calls account.own →
      (wire.left .first sent).Conveys sent) →
    ∀ attempt carried, (attempt, carried) ∈ Event.calls account.own → carried.Conveys request
  /-- Afterwards, also if the exchange failed, it is what its last sending has left of it. -/
  left : ∀ attempt carried, (Event.calls account.own).getLast? = some (attempt, carried) →
    account.request = wire.left attempt carried

theorem Performed.conveys_first (performed : Performed schemes wire scene request account)
    (called : (.first, carried) ∈ Event.calls account.own) : carried.Conveys request := by
  rw [performed.first_call called]
  split
  · exact (conveys_carrying scene request).buffer
  · exact .refl request

/-- A request that its first sending leaves as it was goes out with all that it had. -/
theorem Performed.conveys (performed : Performed schemes wire scene request account)
    (leaves : ∀ sent, (.first, sent) ∈ Event.calls account.own →
      (wire.left .first sent).Conveys sent)
    {attempt : Attempt} (called : (attempt, carried) ∈ Event.calls account.own) :
    carried.Conveys request := by
  cases attempt with
  | first => exact performed.conveys_first called
  | second =>
      obtain ⟨_, handle, -, sent, -, -, rfl⟩ := performed.second_call called
      have remains : (remnant wire scene request).Conveys request :=
        (leaves _ sent).trans (conveys_carrying scene request).buffer
      exact remains.withAuthorization handle.headerValue

/-- Whatever happens to a request, it goes out unchanged but for its credentials, and these are its
own or what is remembered for its origin; what the first sending leaves of it goes out again with
what answers the challenge. -/
theorem perform_isFaithful (schemes : Schemes Conf State) (wire : Wire) (scene : Scene Conf State)
    (request : Request) :
    ∃ account : Account Conf State,
      perform schemes wire request scene = account.outcome ∧
        IsBounded schemes wire scene request account ∧
        IsFaithful schemes wire scene request account := by
  obtain ⟨account, performed, performs⟩ := exists_performed schemes wire scene request
  refine ⟨account, performs, performed.isBounded, ?_⟩
  constructor
  case first =>
    intro carried called
    refine ⟨performed.conveys_first called, ?_⟩
    rw [performed.authorization_first called, attached?_eq]
    by_cases preemptive : scene.1.preemptive
    · rw [if_pos preemptive, if_pos preemptive]
    · rw [if_neg preemptive, if_neg preemptive]
      rfl
  case own =>
    intro own attempt carried called
    cases attempt with
    | first =>
        refine ⟨rfl, ?_⟩
        rw [performed.first_call called, if_neg own]
    | second =>
        obtain ⟨-, -, bare, -⟩ := performed.second_call called
        exact absurd bare own
  case held =>
    intro bare carried called
    rw [performed.first_call called, if_pos bare, Request.buffer, (conveys_carrying scene
      request).content]
  case second =>
    intro carried called
    obtain ⟨response, handle, -, sent, answered, offered, rfl⟩ := performed.second_call called
    exact ⟨_, response, handle, sent, answered, offered, rfl,
      Request.authorization_withAuthorization _ _⟩
  case conveys => exact fun leaves attempt carried called => performed.conveys leaves called
  case left => exact fun attempt carried last => performed.request_eq last

/-- A report whose content can be read only once. -/
def streamed : Request :=
  { report with body := .stream [[1, 2], [3]] }

/-- On a wire that reads what it carries, all content goes out both times. -/
theorem perform_isFaithful_streamed :
    ∃ account : Account Unit Unit,
      perform (offering { accented with headerValue := "Bearer e" }) doubtful streamed clearing =
          account.outcome ∧
        IsFaithful (offering { accented with headerValue := "Bearer e" }) doubtful clearing streamed
          account ∧
        (Event.calls account.own).map (fun call => (call.2.authorization, call.2.body.bytes)) =
          [([], [1, 2, 3]), (["Bearer e"], [1, 2, 3])] := by
  obtain ⟨account, performs, bounded, faithful⟩ := perform_isFaithful
    (offering { accented with headerValue := "Bearer e" }) doubtful clearing streamed
  have events_eq := bounded.own_eq fun _ => rfl
  refine ⟨account, performs, faithful, ?_⟩
  rw [events_eq, ← performs]
  decide +kernel

/-- The outcome of a request that is sent twice on such a wire. -/
def meddled : Outcome (Scene Unit Unit) Exchange :=
  perform (offering { accented with headerValue := "Bearer e" }) (doubtful.meddle "Basic e") report
    clearing

/-- Afterwards it has other credentials than those with which it last went out; and a handle that
cannot be sent never goes out although it answers the challenge. -/
theorem unfaithful_meddled :
    (Event.calls meddled.events).map (·.2.authorization) = [[], ["Bearer e"]] ∧
      meddled.result.toOption.map (·.request.authorization) = some ["Basic e"] ∧
      .granted accented ∈ thwarted.events ∧
      (Event.calls thwarted.events).map (·.2.authorization) = [[]] := by
  decide +kernel

end Exchange
end Countersign
