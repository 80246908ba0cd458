import Mathlib.Data.List.Infix
import VpnMiddleware.Client.ApiClient
import VpnMiddleware.Core.TransitionSystem

/-!
# The app's token refresh

`_AuthInterceptor.onError` as a state machine, cut at its two calls.  While one
call is being refreshed, the errors of other calls pass through.
-/

namespace VpnMiddleware.AuthInterceptor

open VpnMiddleware.JsonText VpnMiddleware.ConnectionModels
open VpnMiddleware.ApiClient VpnMiddleware.TransitionSystem

/-- The tokens in `SecureStore`. -/
structure Tokens where
  access : Option String := none
  refresh : Option String := none
  deriving DecidableEq, Repr

def setTokens (access refresh : String) : Tokens := ⟨some access, some refresh⟩

def clearAuth : Tokens := ⟨none, none⟩

/-- `onRequest`: the header of a call that requires authentication. -/
def authorization (store : Tokens) (requiresAuth : Bool) : Option String :=
  if requiresAuth then store.access.map ("Bearer " ++ ·) else none

/-- The call that `onError` is suspended at. -/
inductive Await
  | refresh (path presented : String)
  | replay (path authorization : String)
  deriving DecidableEq, Repr

/-- How `onError` ends: the error is passed on, or the call gets a response. -/
inductive Handled
  | next
  | resolve (data : Json)

/-- `_refreshing` holds exactly while a call is awaited. -/
structure Interceptor where
  store : Tokens
  awaiting : Option Await := none
  handled : Option Handled := none

/-- How a call of the inner Dio ends: a 2xx response, or an exception. -/
abbrev Reply := Except DioException Json

inductive Event
  | failed (status : Option ℕ) (path : String)
  | refreshed (reply : Reply)
  | replayed (reply : Reply)

/-- `err.requestOptions.path.contains('/auth/')`. -/
def isAuthCall (path : String) : Bool := decide ("/auth/".toList <:+: path.toList)

/-- `data['accessToken'] as String` and `data['refreshToken'] as String`. -/
def tokenPair (data : Json) : Decode (String × String) := do
  let access ← asString data "accessToken"
  let refresh ← asString data "refreshToken"
  return (access, refresh)

/-- `handler.next(err)`. -/
def passOn (s : Interceptor) : Interceptor :=
  { s with awaiting := none, handled := some .next }

/-- The catch block. -/
def giveUp (s : Interceptor) : Interceptor :=
  passOn { s with store := clearAuth }

/-- `onError` up to the refresh call. -/
def onError (s : Interceptor) (status : Option ℕ) (path : String) : Interceptor :=
  if status ≠ some 401 ∨ isAuthCall path = true ∨ s.awaiting.isSome = true then
    { s with handled := some .next }
  else
    match s.store.refresh with
    | none => passOn s
    | some presented => { s with awaiting := some (.refresh path presented) }

/-- From the answer to the refresh on. -/
def afterRefresh (s : Interceptor) (path : String) : Reply → Interceptor
  | .error _ => giveUp s
  | .ok data =>
      match data with
      | .obj members =>
          match tokenPair (.obj members) with
          | .ok (access, refresh) =>
              { s with
                store := setTokens access refresh
                awaiting := some (.replay path ("Bearer " ++ access)) }
          | .error _ => giveUp s
      | _ => passOn s

/-- From the answer to the replayed call on. -/
def afterReplay (s : Interceptor) : Reply → Interceptor
  | .ok data => { s with awaiting := none, handled := some (.resolve data) }
  | .error _ => giveUp s

def step (s : Interceptor) : Event → Option Interceptor
  | .failed status path => some (onError s status path)
  | .refreshed reply =>
      match s.awaiting with
      | some (.refresh path _) => some (afterRefresh s path reply)
      | _ => none
  | .replayed reply =>
      match s.awaiting with
      | some (.replay _ _) => some (afterReplay s reply)
      | _ => none

/-- Any tokens may be stored when the app starts. -/
def interceptor : System Interceptor Event where
  init s := s.awaiting = none
  step := step

end VpnMiddleware.AuthInterceptor
