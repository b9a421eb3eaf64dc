import Mathlib.Data.List.Induction
import ScenarioStubs.Engine.Basic
import ScenarioStubs.Proofs.Since

/-!
# Requests built piece by piece

A request is built at once from all its parts, or from a method and a url by adding headers and bodies one after the
other (`Request.addAll`). On the second way the cookies are read again only when a `Cookie` header is added. That is
often enough, since no other header has cookies (`Cookies.ofHeaders_push`): adding a piece to a request that was built
at once gives the request built at once with that piece (`withHeader_ofParts`, `add_ofParts`), so both ways lead to the
same request (`addAll_new`).

Together: `built_either_way`.
-/

namespace ScenarioStubs

/-- The cookies of one more header are added to those of the headers before it; only a `Cookie` header has any. -/
theorem Cookies.ofHeaders_push (headers : Headers) (name value : String) :
    ofHeaders (headers.push name value) =
      if Text.sameIgnoringCase name "cookie" then (ofHeaders headers).addHeader value else ofHeaders headers := by
  unfold ofHeaders
  rw [Headers.getAll_push, List.foldl_append]
  split <;> rfl

namespace Request

/-- What can be added to a request. -/
inductive Piece
  | header (name value : String)
  | body (body : Bytes)

/-- The header that a piece is. -/
def Piece.header? : Piece → Option (String × String)
  | header name value => some (name, value)
  | body _ => none

/-- The body that a piece is. -/
def Piece.body? : Piece → Option Bytes
  | header .. => none
  | body bytes => some bytes

/-- The request with a piece added. -/
def add (r : Request) : Piece → Request
  | .header name value => r.withHeader name value
  | .body body => r.withBody body

/-- The request with some pieces added, one after the other. -/
def addAll (r : Request) (pieces : List Piece) : Request := pieces.foldl add r

/-- The headers among some pieces, in their order. -/
def headersOf (pieces : List Piece) : Headers := ⟨pieces.filterMap Piece.header?⟩

/-- The last body among some pieces; without any, the body is empty. -/
def bodyOf (pieces : List Piece) : Bytes := lastGiven Piece.body? [] pieces

variable (method url : String) (headers : Headers) (body : Bytes) (pieces : List Piece)

/-! ## One piece -/

/-- Adding a header to a request that was built at once: the cookies are as if they had been read from all headers. -/
theorem withHeader_ofParts (name value : String) :
    (ofParts method url headers body).withHeader name value = ofParts method url (headers.push name value) body := by
  unfold withHeader ofParts
  dsimp only
  by_cases hcookie : Text.sameIgnoringCase name "cookie" = true
  · rw [if_pos hcookie]
  · rw [if_neg hcookie, Cookies.ofHeaders_push, if_neg hcookie]

theorem headersOf_concat (piece : Piece) : headersOf (pieces ++ [piece]) =
    match piece.header? with
    | some h => (headersOf pieces).push h.1 h.2
    | none => headersOf pieces := by
  unfold headersOf
  rw [List.filterMap_append]
  cases piece with
  | header name value => rfl
  | body body => exact congrArg Headers.mk (List.append_nil _)

theorem add_ofParts (piece : Piece) : (ofParts method url (headersOf pieces) (bodyOf pieces)).add piece =
    ofParts method url (headersOf (pieces ++ [piece])) (bodyOf (pieces ++ [piece])) := by
  rw [headersOf_concat, bodyOf, bodyOf, lastGiven_concat]
  cases piece with
  | header name value => exact withHeader_ofParts method url _ _ name value
  | body body => rfl

/-! ## All pieces -/

theorem addAll_concat (r : Request) (piece : Piece) : r.addAll (pieces ++ [piece]) = (r.addAll pieces).add piece :=
  List.foldl_append

/-- A request built piece by piece is the one built at once from the headers and the last body among the pieces. -/
theorem addAll_new : (new method url).addAll pieces = ofParts method url (headersOf pieces) (bodyOf pieces) := by
  induction pieces using List.reverseRecOn with
  | nil => rfl
  | append_singleton pieces piece ih =>
    rw [addAll_concat, ih, add_ofParts]

/-- **Both ways to build a request agree.** Headers and bodies are added to a request one after the other, in any
order. After any number of them the request has the headers added so far, and its cookies are those of these headers; in
the end it is the request built at once from all headers and the last body. An engine therefore answers both alike. -/
theorem built_either_way :
    (∀ n, ((new method url).addAll (pieces.take n)).headers = headersOf (pieces.take n) ∧
        ((new method url).addAll (pieces.take n)).cookies = Cookies.ofHeaders (headersOf (pieces.take n))) ∧
      (new method url).addAll pieces = ofParts method url (headersOf pieces) (bodyOf pieces) ∧
      ∀ (e : Engine) (now : Instant) (fresh : SessionId),
        e.serve now fresh ((new method url).addAll pieces) =
          e.serve now fresh (ofParts method url (headersOf pieces) (bodyOf pieces)) := by
  refine ⟨fun n => ?_, addAll_new method url pieces, fun e now fresh => ?_⟩
  · rw [addAll_new]
    exact ⟨rfl, rfl⟩
  · rw [addAll_new]

end Request

end ScenarioStubs
