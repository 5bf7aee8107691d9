import AtomResolution.Catalog.Describe
import AtomResolution.Error.Code

/-!
What can go wrong in finding and in running a conversion.
-/

namespace AtomResolution

inductive ConverterFailure where
  | raised (message : String)
  | returned (found : AtomId)
  deriving DecidableEq

inductive ConversionError where
  | noConversion (source : AtomId) (target : TypeTag)
  | unknownConversion (source : AtomId) (id : ConversionId)
  | ambiguousConversion (source : AtomId) (target : TypeTag) (candidates : List AtomId)
  | converterFailed (source target : AtomId) (failure : ConverterFailure)
  deriving DecidableEq

def ConverterFailure.message (names : Interner) (catalog : Catalog) : ConverterFailure → String
  | .raised message => message
  | .returned found => "converter returned " ++ quoted (catalog.describeAtom names found)

namespace ConversionError

def code : ConversionError → ErrorCode
  | .noConversion .. | .unknownConversion .. => ⟨6001⟩
  | .ambiguousConversion .. => ⟨6002⟩
  | .converterFailed .. => ⟨6003⟩

def message (names : Interner) (catalog : Catalog) : ConversionError → String
  | .noConversion source target =>
    "no conversion from " ++ quoted (catalog.describeAtom names source) ++ " to " ++
      quoted (catalog.describeType names target)
  | .unknownConversion source id =>
    "no conversion from " ++ quoted (catalog.describeAtom names source) ++ " to " ++ quoted id.label
  | .ambiguousConversion source target candidates =>
    "ambiguous conversion from " ++ quoted (catalog.describeAtom names source) ++ " to " ++
      quoted (catalog.describeType names target) ++ ": candidates are " ++
      ", ".intercalate (candidates.map (catalog.describeAtom names))
  | .converterFailed source target failure =>
    "conversion from " ++ quoted (catalog.describeAtom names source) ++ " to " ++
      quoted (catalog.describeAtom names target) ++ " failed: " ++ failure.message names catalog

end ConversionError

end AtomResolution
