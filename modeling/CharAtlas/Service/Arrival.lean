import CharAtlas.Account.Identity
import CharAtlas.Service.Handler

/-! # The way back from the provider

`Service.signInReturn` stands for a provider that cannot be reached. `Service.complete` says what
comes of the way back whatever the provider answers, and `Service.handleArrival` takes it in its
place; where there is no answer, both do the same (`Service.handleArrival_unanswered`). -/

namespace CharAtlas

/-- What the way back meets: who the provider says has signed in, if it says so, an id for a user
who is new, and the time as rows of users show it. -/
structure Arrival where
  identity : Option Identity
  userId : String
  stamp : String

namespace Service

/-- The state is spent before the provider is asked. The session gets the fresh id of the visit. -/
def complete (s : Service) (v : Visit) (a : Arrival) (code state error : Option String) : Reply :=
  let failed := Response.redirect (s.settings.clientPage "/login")
  match error, code, state with
  | none, some _, some state =>
    match s.database.redeemSignIn state v.now with
    | .error _ => s.unchanged v failed
    | .ok (none, db) => ⟨failed, s.withDatabase db, v.jar⟩
    | .ok (some returnTo, db) =>
      match a.identity with
      | none => ⟨failed, s.withDatabase db, v.jar⟩
      | some i =>
        match db.upsertUser i a.userId a.stamp with
        | .error _ => ⟨failed, s.withDatabase db, v.jar⟩
        | .ok (user, db') =>
          match db'.logIn user s.settings.auth.sessionDays.toInt v.freshId v.now with
          | .error _ => ⟨failed, s.withDatabase db', v.jar⟩
          | .ok (_, db'', jar) =>
            ⟨.redirect (s.settings.clientPage returnTo), s.withDatabase db'', jar⟩
  | _, _, _ => s.unchanged v failed

def handleArrival (s : Service) (v : Visit) (a : Arrival) : Request → Reply
  | .signInReturn code state error => s.complete v a code state error
  | request => s.handle v request

theorem complete_unanswered {s : Service} {v : Visit} {a : Arrival} (ha : a.identity = none)
    (code state error : Option String) :
    s.complete v a code state error = s.signInReturn v code state error := by
  unfold complete signInReturn
  rcases error with _ | error
  · rcases code with _ | code
    · rfl
    · rcases state with _ | state
      · rfl
      · dsimp only
        rcases s.database.redeemSignIn state v.now with e | ⟨_ | returnTo, db⟩
        · rfl
        · rfl
        · rw [ha]
  · rfl

theorem handleArrival_unanswered {s : Service} {v : Visit} {a : Arrival} (ha : a.identity = none)
    (request : Request) : s.handleArrival v a request = s.handle v request := by
  cases request with
  | signInReturn code state error => exact complete_unanswered ha code state error
  | _ => rfl

end Service
end CharAtlas
