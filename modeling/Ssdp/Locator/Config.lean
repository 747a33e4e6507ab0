import Ssdp.Time.Duration

/-!
# Configuration of a locator

What a locator looks for, whether and how often it searches, and for how long
it believes devices that name no age limit. An interval or an age limit of zero
is refused.
-/

namespace Ssdp

/-- The options of a locator. -/
structure LocatorConfig where
  filters : List Text := []
  activeSearch : Bool := true
  interval : Duration := .ofSecs 30
  initialDelay : Duration := .ofSecs 5
  searchWait : Duration := .ofSecs 4
  defaultMaxAge : Duration := .ofSecs 300
deriving DecidableEq

/-- Why a locator cannot have these options. -/
inductive ConfigError where
  | zeroInterval
  | zeroMaxAge
deriving DecidableEq, Repr

/-- The text of a configuration error. -/
def ConfigError.message : ConfigError → Text
  | .zeroInterval => "The search interval must be greater than zero".toList
  | .zeroMaxAge => "The default cache max-age must be greater than zero".toList

/-- What is wrong with the options; the interval is looked at first. -/
def LocatorConfig.fault? (c : LocatorConfig) : Option ConfigError :=
  if c.interval.isZero then some .zeroInterval
  else if c.defaultMaxAge.isZero then some .zeroMaxAge
  else none

end Ssdp
