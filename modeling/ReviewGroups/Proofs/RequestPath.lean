/-
Module: ReviewGroups.Proofs.RequestPath
Purpose: The path of the request that a client makes, behind the path of its base address. The
  restriction to plain base addresses is the one of `AppendedPath`.
Trusted boundary: none
Main exports: Client.rawPath_of_base, Client.path_of_request
-/
import ReviewGroups.Proofs.AppendedPath
import ReviewGroups.Proofs.RequestParts

namespace ReviewGroups

namespace Text

/-- Once slashes at the end are removed, there is none at the end. -/
theorem getLast?_dropTrailingSlashes (s : String) :
    (dropTrailingSlashes s).toList.getLast? ≠ some '/' := by
  unfold dropTrailingSlashes dropTrailing
  rw [String.toList_ofList, List.getLast?_reverse]
  intro slash
  have stops := List.head?_dropWhile_not (· == '/') s.toList.reverse
  rw [slash] at stops
  cases stops

end Text

namespace Http

open Url

/-- A request with other parameters keeps the path of its address, in normal form. -/
theorem path_of_withParameters {address changed : Address} {path : List Char}
    {parameters : Option (Keyed (List String))} (hasScheme : address.scheme ≠ "")
    (written : address.path.toList = Percent.encode pathStays (normalizePath path))
    (replaced : withParameters address parameters = .ok changed) :
    changed.path.toList = Percent.encode pathStays (normalizePath path) := by
  cases parameters with
  | none =>
      cases replaced
      exact written
  | some gathered =>
      have changedQuery := withParameters_some_eq_ok_iff.1 replaced
      rw [Address.path_of_withQuery hasScheme changedQuery, written,
        Address.encode_normalizePath_twice]

namespace Client

variable {client : Client} {address base : Address} {intent : Intent} {request : Request}
  {rest : List Char}

/-- The base address of a client with a plain base address ends in a slash. -/
theorem rawPath_of_base (plain : Address.IsPlainBase client.baseUrl address)
    (noSlash : client.baseUrl.toList.getLast? ≠ some '/') (isBase : client.base = .ok base) :
    base.scheme ≠ "" ∧ base.rawPath = address.path.toList ++ ['/'] := by
  obtain ⟨other, read, based⟩ := exists_asBase_of_base isBase
  cases plain.read.symm.trans read
  exact plain.rawPath_of_asBase noSlash based

/-- The path of a request is that of the base address and what the client makes of the path that is
asked for, in normal form. -/
theorem path_of_request (plain : Address.IsPlainBase client.baseUrl address)
    (noSlash : client.baseUrl.toList.getLast? ≠ some '/') (isBase : client.base = .ok base)
    (built : client.buildPath intent.path = String.ofList ('/' :: rest))
    (single : rest.head? ≠ some '/') (clean : ∀ c ∈ rest, pathStays c = true)
    (made : client.request base intent = .ok request) :
    request.address.path.toList =
      Percent.encode pathStays (normalizePath (address.path.toList ++ '/' :: rest)) := by
  obtain ⟨hasScheme, raw⟩ := rawPath_of_base plain noSlash isBase
  obtain ⟨reference, appended, parameters, read, append, -, replaced⟩ :=
    (makes_of_request made).address
  rw [built] at read
  obtain ⟨relative, written⟩ := Address.rawPath_of_parse_rooted single clean read
  have noMark : '?' ∉ address.path.toList ++ '/' :: rest := by
    simp only [List.mem_append, List.mem_cons, not_or]
    refine ⟨plain.not_mem_path, by decide, ?_⟩
    intro present
    exact absurd (clean _ present) (by decide)
  obtain ⟨schemeToo, path⟩ :=
    Address.path_of_append hasScheme raw relative written single noMark append
  exact path_of_withParameters schemeToo path replaced

end Client

end Http

end ReviewGroups
