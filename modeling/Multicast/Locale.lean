import Multicast.World

/-!
# `Multicast.Locale` — working in the user's locale

The full screen needs the user's locale to measure text. The locale that was set before is put back
however the work ends; failing in that is only worth a remark.

## Contents
- `Act.restoreLocale` and `Act.inUserLocale`.
-/

namespace Multicast.Act

/-- Asks for the locale, or sets it. -/
def setLocale (name : Option String) : Act Unit := attempt .setLocale (.setLocale name)

/-- Puts a locale back. -/
def restoreLocale (name : String) : Act Unit :=
  recover (setLocale (some name)) Fault.isLocale fun e =>
    log .error s!"Failed to restore locale {name}: {e.message}"

/-- Does something in the user's locale. -/
def inUserLocale {α : Type} (body : Act α) : Act α := do
  setLocale none
  let before := (← get).host.locale
  ensuring
    (do
      setLocale (some "")
      body)
    (restoreLocale before)

/-- Work that leaves nothing but a mark in the trace, and may fail. -/
def workLocalised : Act Unit := attempt .localised .localised

end Multicast.Act
