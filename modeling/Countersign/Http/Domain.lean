import Countersign.Http.Label.Basic
import Countersign.Text.Split

/-!
# Domain names

A domain name is written as its labels with dots between them, and possibly one more dot at its
end.  Besides the full stop there are three dots that are used with Chinese characters.
-/

namespace Countersign
namespace Domain

open Label (Fault)

/-- Whether a character separates labels. -/
def isDot (char : Char) : Bool :=
  ['.', '\u3002', '\uff0e', '\uff61'].contains char

/-- A domain name in which each label is replaced by its form. -/
def transform (form : List Char → Except Fault (List Char)) (name : List Char) :
    Except Fault (List Char) := do
  if Label.maximalDomainLength + 1 < name.length then throw .domainTooLong
  let labels := Text.split isDot name
  let ended := labels.getLast? = some []
  let forms ← (if ended then labels.dropLast else labels).mapM form
  pure (Text.join '.' (if ended then forms ++ [[]] else forms))

/-- The ASCII text as which a domain name is sent. -/
def asciiForm (name : List Char) : Except Fault (List Char) := do
  let sent ← transform Label.asciiForm name
  let ended := sent.getLast? = some '.'
  if (if ended then Label.maximalDomainLength + 1 else Label.maximalDomainLength) < sent.length then
    throw .domainTooLong
  pure sent

/-- The domain name that is sent as an ASCII text. -/
def unicodeForm (name : List Char) : Except Fault (List Char) :=
  transform Label.unicodeForm name

end Domain
end Countersign
