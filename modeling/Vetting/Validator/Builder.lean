import Vetting.Validator.Builtin

/-!
# Validators built step by step

Some validators start out with the usual parameters, and each of these can be replaced on its own.
A builder holds the parameters meanwhile.  A step replaces what it names and leaves everything else
as it is; the one that can be refused is that of the schemes of a URL check, since its pattern is
made of them.
-/

namespace Vetting

namespace Builtin

/-- The bounds of a number check, which start out open. -/
structure NumberBuilder where
  min : Option Double := none
  max : Option Double := none

namespace NumberBuilder

def withMin (b : NumberBuilder) (min : Double) : NumberBuilder := { b with min := some min }

def withMax (b : NumberBuilder) (max : Double) : NumberBuilder := { b with max := some max }

def validator (b : NumberBuilder) : Validator := number b.min b.max

end NumberBuilder

/-- The lists of a truth check, which start out with the truth values themselves. -/
structure BooleanBuilder where
  trueValues : List Value := [.bool true]
  falseValues : List Value := [.bool false]

namespace BooleanBuilder

def withTrueValues (b : BooleanBuilder) (trueValues : List Value) : BooleanBuilder :=
  { b with trueValues }

def withFalseValues (b : BooleanBuilder) (falseValues : List Value) : BooleanBuilder :=
  { b with falseValues }

def validator (b : BooleanBuilder) : Validator := boolean b.trueValues b.falseValues

end BooleanBuilder

/-- What a URL check is made of, to start with strict URLs of the web. -/
structure UrlBuilder where
  schemes : List String := Address.webSchemes
  strict : Bool := true
  pattern : Regex.Pattern := Address.url Address.webSchemes

namespace UrlBuilder

/-- Replaces the schemes and the pattern with them. -/
def withSchemes [Regex.Engine] (b : UrlBuilder) (schemes : List String) :
    Except ConfigError UrlBuilder :=
  (schemesPattern schemes).map fun pattern => { b with schemes, pattern }

def withStrict (b : UrlBuilder) (strict : Bool) : UrlBuilder := { b with strict }

/-- Replaces the pattern only; the schemes are kept, but no longer looked for. -/
def withPattern (b : UrlBuilder) (r : Regex) : UrlBuilder := { b with pattern := r.pattern }

def validator (b : UrlBuilder) : Validator := urlWith b.schemes b.strict b.pattern

end UrlBuilder

/-- Addresses of both families. -/
def ipAny : Validator := ip true true

def ipV4Only : Validator := ip true false

def ipV6Only : Validator := ip false true

end Builtin

end Vetting
