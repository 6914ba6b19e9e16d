import FieldMap.Request.HostContext
import FieldMap.Request.Punycode
import FieldMap.Text.Case

/-!
Labels of host names. A label beyond ASCII must be in normal form and follow the rules for its
characters; it is written as the code of its characters after a mark.
-/

namespace FieldMap.Request

def hasGoodEnds (label : List Char) : Bool :=
  (label.drop 2).take 2 != ['-', '-'] && label.head? != some '-' && label.getLast? != some '-' &&
    !label.head?.any isHostMark

def isLabel (label : List Char) : Bool :=
  !label.isEmpty && hasGoodEnds label && areInPlace label [] label && isEvenlyDirected label &&
    Text.normalized label == label

def codeMark : List Char := "xn--".toList

def shortLabel? (label : List Char) : Option (List Char) :=
  if 63 < label.length then none else some label

def labelCode? (label : List Char) : Option (List Char) :=
  if isLabel label then shortLabel? (codeMark ++ Punycode.encode label) else none

def isAsciiLabel (label : List Char) : Bool :=
  if codeMark.isPrefixOf label then
    let code := label.drop codeMark.length
    code.getLast? != some '-' && !code.isEmpty && (Punycode.decode? code).any isLabel
  else isLabel label

end FieldMap.Request
