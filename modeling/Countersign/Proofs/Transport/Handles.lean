import Countersign.Proofs.Keeping
import Countersign.Proofs.Transport.Confinement

/-!
# Where the handles of a transport come from

A transport remembers, and its exchanges send, only handles that its schemes gave.  So if the
schemes give handles of one kind alone, all of these are of that kind.
-/

namespace Countersign
namespace Exchange

open Countersign.Action (Keeps)

variable {Conf State : Type} {holds : State → Prop} {good : Handle → Prop}
  {schemes : Schemes Conf State} {exchange : Exchange}

/-- Whether everything that a transport remembers is of a kind, and the schemes act on a state that
meets a condition. -/
structure Scene.IsSound (good : Handle → Prop) (holds : State → Prop) (scene : Scene Conf State) :
    Prop where
  remembered : ∀ origin handle, scene.1.remembered.find? origin = some handle → good handle
  state : holds scene.2

/-- Whether an exchange answers a refusal with a handle of a kind, if it is about to answer one. -/
def AnswersWith (good : Handle → Prop) (exchange : Exchange) : Prop :=
  ∀ handle, Traffic.answer? exchange.stage = some handle → good handle

theorem begin_keeps (request : Request) :
    (Exchange.begin request : Action (Scene Conf State) Exchange).Keeps
      (Scene.IsSound good holds) (fun _ => True) (AnswersWith good) := by
  intro scene sound
  have begun := begin_spec scene request
  generalize Exchange.begin request scene = outcome at begun
  cases begun with
  | own | unshowable | bare | unsendable | attached =>
      refine { state := sound, events := fun _ _ => trivial, value := ?_ }
      rintro _ ⟨⟩
      nofun

/-- Sending a request changes no answer. -/
theorem AnswersWith.touch (answers : exchange.AnswersWith good) (wire : Wire) :
    (wire.touch exchange).AnswersWith good := by
  have same : (wire.touch exchange).stage = exchange.stage := by
    rw [Wire.touch]
    split <;> rfl
  rwa [AnswersWith, same]

/-- A scene in which a request has taught something about credentials of a kind. -/
theorem Scene.IsSound.learn {scene : Scene Conf State} (sound : scene.IsSound good holds)
    {remembered : Table Origin Handle}
    (known : ∀ origin handle, remembered.find? origin = some handle →
      scene.1.remembered.find? origin = some handle ∨ good handle) :
    Scene.IsSound good holds ({ scene.1 with remembered }, scene.2) where
  remembered origin handle found := by
    rcases known origin handle found with before | isGood
    · exact sound.remembered origin handle before
    · exact isGood
  state := sound.state

theorem resume_keeps
    (gives : ∀ challenges config, (schemes challenges config).Keeps holds (fun _ => True)
      fun answer => ∀ handle ∈ answer, good handle)
    (answers : exchange.AnswersWith good) (reply : Reply) :
    (exchange.resume schemes reply).Keeps (Scene.IsSound good holds) (fun _ => True)
      (AnswersWith good) := by
  intro scene sound
  have consulted := fun challenges => gives challenges scene.1.config scene.2 sound.state
  have resumed := resume_spec schemes scene exchange reply
  generalize exchange.resume schemes reply scene = outcome at resumed
  cases resumed with
  | rest =>
      refine { state := sound, events := fun _ _ => trivial, value := ?_ }
      rintro _ ⟨⟩
      exact answers
  | passed | failed | read | settled | unsendable =>
      refine { state := sound, events := fun _ _ => trivial, value := ?_ }
      rintro _ ⟨⟩
      nofun
  | resent request origin handle =>
      refine { state := sound, events := fun _ _ => trivial, value := ?_ }
      rintro _ ⟨⟩
      exact answers
  | broken _ _ _ response _ after _ _ _ asked | unanswered _ _ _ response after _ _ _ asked
  | repeated _ _ _ response after _ _ _ asked =>
      have kept := (consulted response.challenges).state
      rw [asked] at kept
      refine
        { state := { remembered := sound.remembered, state := kept }
          events := fun _ _ => trivial
          value := ?_ }
      rintro _ ⟨⟩
      nofun
  | answering _ _ _ handle response after _ _ _ asked =>
      have kept := (consulted response.challenges).state
      have isGood := (consulted response.challenges).value
      rw [asked] at kept isGood
      refine
        { state := { remembered := sound.remembered, state := kept }
          events := fun _ _ => trivial
          value := ?_ }
      rintro _ ⟨⟩ _ ⟨⟩
      exact isGood _ rfl handle rfl
  | rejected request =>
      refine { state := sound.learn fun origin handle found => ?_
               events := fun _ _ => trivial
               value := ?_ }
      · rw [Table.find?_erase] at found
        split at found
        next => cases found
        next => exact .inl found
      · rintro _ ⟨⟩
        nofun
  | accepted request origin sent =>
      refine { state := sound.learn fun origin handle found => ?_
               events := fun _ _ => trivial
               value := ?_ }
      · rw [Table.find?_insert] at found
        split at found
        next =>
          cases found
          exact .inr (answers sent rfl)
        next => exact .inl found
      · rintro _ ⟨⟩
        nofun

/-- A whole exchange answers with a handle of the kind, and leaves no other remembered. -/
theorem perform_keeps
    (gives : ∀ challenges config, (schemes challenges config).Keeps holds (fun _ => True)
      fun answer => ∀ handle ∈ answer, good handle)
    (wire : Wire) (request : Request) :
    (perform schemes wire request).Keeps (Scene.IsSound good holds) (fun _ => True)
      (AnswersWith good) := by
  have advances : ∀ exchange : Exchange, exchange.AnswersWith good →
      (exchange.advance schemes wire).Keeps (Scene.IsSound good holds) (fun _ => True)
        (AnswersWith good) :=
    fun exchange answers => resume_keeps gives (answers.touch wire) (wire.reply exchange)
  exact (begin_keeps request).bind fun _ begun => (advances _ begun).bind fun _ first =>
    (advances _ first).bind fun _ second => (advances _ second).bind fun _ third =>
      advances _ third

end Exchange
end Countersign
