/-
  The titles of months and weekdays. The first three letters of a title are its short form.
-/

namespace Crond.Calendar

def monthTitles : List String :=
  ["January", "February", "March", "April", "May", "June", "July", "August", "September",
    "October", "November", "December"]

def weekdayTitles : List String :=
  ["Sunday", "Monday", "Tuesday", "Wednesday", "Thursday", "Friday", "Saturday"]

end Crond.Calendar
