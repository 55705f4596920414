import RecordValidation.Character.Table

/-!
The version of the character standard in which each code point was assigned.
-/

namespace RecordValidation.Age

def table : List Table.Run := Table.runs
  "1f6:1.1 4:3.0 1e:1.1 8:3.0 1:3.2 1:4.0 12:3.0 3:4.0 b:4.1 e:5.0 59:1.1 5:3.0 2:4.0 2f:1.1
  1:3.0 a:1.1 5:3.0 11:4.0 46:1.1 9:3.0 1:3.2 8:4.0 5:4.1 3:4.0 2:1.1 1:3.0 d:3.2 4:5.1 2:1.1
  2:5.1 2:NA 1:1.1 3:5.0 1:1.1 1:7.0 4:NA 7:1.1 1:NA 1:1.1 1:NA 14:1.1 1:NA 2c:1.1 1:5.1
  7:1.1 1:3.0 2:3.2 1:1.1 1:3.0 1:1.1 1:3.0 1:1.1 1:3.0 1:1.1 1:3.0 12:1.1 2:3.1 1:3.2 5:4.0
  4:4.1 1:3.0 c:1.1 1:3.0 42:1.1 1:3.0 c:1.1 1:3.0 29:1.1 1:5.1 2:3.0 2:3.2 4:3.0 35:1.1
  2:3.2 2:1.1 2:3.2 2:1.1 2:3.2 1:5.0 1c:1.1 2:3.0 8:1.1 2:4.1 2:1.1 6:5.0 10:3.2 4:5.0
  10:5.1 2:5.2 2:6.0 8:7.0 1:NA 26:1.1 2:NA 7:1.1 1:11.0 27:1.1 1:11.0 1:1.1 1:3.0 2:NA 2:7.0
  1:6.1 1:NA 11:2.0 1:4.1 d:2.0 a:1.1 1:5.0 9:1.1 1:2.0 3:4.1 8:NA 1b:1.1 4:NA 1:11.0 5:1.1
  b:NA 4:4.0 1:6.1 1:7.0 5:5.1 1:4.1 1:1.1 9:4.0 5:5.1 1:1.1 1:6.3 1:14.0 1:4.1 1:1.1 1:6.0
  1a:1.1 5:5.1 13:1.1 3:3.0 3:4.0 6:4.1 1:6.0 e:1.1 2:3.2 48:1.1 2:3.0 5:1.1 1:3.0 f:1.1
  1:3.0 1e:1.1 2:4.0 a:1.1 5:3.0 1:4.0 e:3.0 1:NA 1e:3.0 3:4.0 1b:3.0 2:NA 3:4.0 1e:4.1
  12:5.1 31:3.0 1:3.2 e:NA 3b:5.0 2:NA 3:11.0 2e:5.2 2:NA f:5.2 1:NA 1c:6.0 2:NA 1:6.0 1:NA
  b:10.0 5:NA 1f:14.0 1:NA 2:14.0 5:NA 1:16.0 8:14.0 1:6.1 1:7.0 b:6.1 6:7.0 2:8.0 1:14.0
  8:9.0 a:13.0 b:14.0 1:11.0 f:9.0 1:8.0 1b:6.1 1:7.0 1:5.2 3:1.1 1:4.0 35:1.1 2:6.0 12:1.1
  1:5.2 1:6.0 5:1.1 1:5.2 2:6.0 19:1.1 2:5.1 5:6.0 1:7.0 2:5.2 2:5.0 1:4.1 2:5.0 1:7.0 3:1.1
  1:NA 8:1.1 2:NA 2:1.1 2:NA 16:1.1 1:NA 7:1.1 1:NA 1:1.1 3:NA 4:1.1 2:NA 1:1.1 1:4.0 7:1.1
  2:NA 2:1.1 2:NA 3:1.1 1:4.1 8:NA 1:1.1 4:NA 2:1.1 1:NA 5:1.1 2:NA 15:1.1 1:5.2 2:10.0
  1:11.0 2:NA 1:4.0 1:1.1 1:4.0 1:NA 6:1.1 4:NA 2:1.1 2:NA 16:1.1 1:NA 7:1.1 1:NA 2:1.1 1:NA
  2:1.1 1:NA 2:1.1 2:NA 1:1.1 1:NA 5:1.1 4:NA 2:1.1 2:NA 3:1.1 3:NA 1:5.1 7:NA 4:1.1 1:NA
  1:1.1 7:NA f:1.1 1:5.1 1:11.0 a:NA 3:1.1 1:NA 7:1.1 1:4.0 1:1.1 1:NA 3:1.1 1:NA 16:1.1 1:NA
  7:1.1 1:NA 2:1.1 1:NA 5:1.1 2:NA a:1.1 1:NA 3:1.1 1:NA 3:1.1 2:NA 1:1.1 f:NA 1:1.1 3:4.0
  2:NA a:1.1 1:6.1 1:4.0 7:NA 1:8.0 6:10.0 1:NA 3:1.1 1:NA 8:1.1 2:NA 2:1.1 2:NA 16:1.1 1:NA
  7:1.1 1:NA 2:1.1 1:NA 1:4.0 4:1.1 2:NA 8:1.1 1:5.1 2:NA 2:1.1 2:NA 3:1.1 7:NA 1:13.0 2:1.1
  4:NA 2:1.1 1:NA 3:1.1 2:5.1 2:NA b:1.1 1:4.0 6:6.0 a:NA 2:1.1 1:NA 6:1.1 3:NA 3:1.1 1:NA
  4:1.1 3:NA 2:1.1 1:NA 1:1.1 1:NA 2:1.1 3:NA 2:1.1 3:NA 3:1.1 3:NA 8:1.1 1:4.1 3:1.1 4:NA
  5:1.1 3:NA 3:1.1 1:NA 4:1.1 2:NA 1:5.1 6:NA 1:1.1 e:NA 1:4.1 c:1.1 8:4.0 5:NA 1:7.0 3:1.1
  1:11.0 8:1.1 1:NA 3:1.1 1:NA 17:1.1 1:NA a:1.1 1:7.0 5:1.1 2:NA 1:14.0 1:5.1 7:1.1 1:NA
  3:1.1 1:NA 4:1.1 7:NA 2:1.1 1:NA 2:5.1 1:8.0 2:NA 1:14.0 2:NA 2:1.1 2:5.1 2:NA a:1.1 7:NA
  1:12.0 8:5.1 1:9.0 1:7.0 2:1.1 1:11.0 8:1.1 1:NA 3:1.1 1:NA 17:1.1 1:NA a:1.1 1:NA 5:1.1
  2:NA 2:4.0 7:1.1 1:NA 3:1.1 1:NA 4:1.1 7:NA 2:1.1 6:NA 1:14.0 1:1.1 1:NA 2:1.1 2:5.0 2:NA
  a:1.1 1:NA 2:5.0 1:15.0 c:NA 1:10.0 1:7.0 2:1.1 1:13.0 8:1.1 1:NA 3:1.1 1:NA 17:1.1 1:6.0
  10:1.1 1:6.0 2:10.0 1:5.1 6:1.1 1:5.1 1:NA 3:1.1 1:NA 4:1.1 1:6.0 1:9.0 4:NA 3:9.0 1:1.1
  7:9.0 1:8.0 2:1.1 2:5.1 2:NA a:1.1 6:5.1 3:9.0 7:5.1 1:NA 1:13.0 2:3.0 1:NA 12:3.0 3:NA
  18:3.0 1:NA 9:3.0 1:NA 1:3.0 2:NA 7:3.0 3:NA 1:3.0 4:NA 6:3.0 1:NA 1:3.0 1:NA 8:3.0 6:NA
  a:7.0 2:NA 3:3.0 c:NA 3a:1.1 4:NA 1d:1.1 25:NA 2:1.1 1:NA 1:1.1 1:NA 1:12.0 2:1.1 1:12.0
  1:1.1 1:NA 1:12.0 1:1.1 6:12.0 4:1.1 1:12.0 7:1.1 1:12.0 3:1.1 1:NA 1:1.1 1:NA 1:1.1 2:12.0
  2:1.1 1:12.0 d:1.1 1:12.0 3:1.1 2:NA 5:1.1 1:NA 1:1.1 1:NA 6:1.1 1:15.0 1:NA a:1.1 2:NA
  2:1.1 2:6.1 20:NA 48:2.0 1:NA 21:2.0 1:3.0 2:5.1 4:NA 1b:2.0 4:6.0 6:2.0 1:3.0 1:2.0 1:NA
  15:2.0 3:3.0 7:2.0 1:3.0 1:2.0 3:3.0 1:NA f:3.0 1:NA 1:5.1 1:3.0 2:4.1 3:5.1 4:5.2 2:6.0
  25:NA 22:3.0 1:5.1 5:3.0 1:5.1 2:3.0 1:5.1 7:3.0 3:5.1 4:3.0 6:5.1 1a:3.0 40:5.1 4:5.2
  2:5.1 26:1.1 1:NA 1:6.1 5:NA 1:6.1 2:NA 27:1.1 2:3.2 2:4.1 1:1.1 1:4.1 3:6.1 5a:1.1 5:5.2
  44:1.1 5:5.2 52:1.1 6:5.2 7:3.0 1:4.1 3f:3.0 1:4.1 1:3.0 1:NA 4:3.0 2:NA 7:3.0 1:NA 1:3.0
  1:NA 4:3.0 2:NA 27:3.0 1:4.1 1:3.0 1:NA 4:3.0 2:NA 1f:3.0 1:4.1 1:3.0 1:NA 4:3.0 2:NA 7:3.0
  1:NA 1:3.0 1:NA 4:3.0 2:NA 7:3.0 1:4.1 7:3.0 1:NA 17:3.0 1:4.1 1f:3.0 1:4.1 1:3.0 1:NA
  4:3.0 2:NA 7:3.0 1:4.1 27:3.0 1:4.1 13:3.0 2:NA 2:6.0 2:4.1 1c:3.0 3:NA 1a:4.1 6:NA 55:3.0
  1:8.0 2:NA 6:8.0 2:NA 1:5.2 276:3.0 9:5.2 1d:3.0 3:NA 51:3.0 8:7.0 7:NA d:3.2 1:14.0 7:3.2
  1:14.0 9:NA 1:14.0 17:3.2 9:NA 14:3.2 c:NA d:3.2 1:NA 3:3.2 1:NA 2:3.2 c:NA 5d:3.0 1:4.0
  2:NA a:3.0 6:NA a:4.0 6:NA f:3.0 1:14.0 a:3.0 6:NA 58:3.0 1:11.0 7:NA 2a:3.0 1:5.1 5:NA
  46:5.2 a:NA 1d:4.0 2:7.0 1:NA c:4.0 4:NA c:4.0 4:NA 1:4.0 3:NA 2a:4.0 2:NA 5:4.0 b:NA
  2a:4.1 2:5.2 4:NA 1a:4.1 6:NA a:4.1 1:5.2 3:NA 2:4.1 20:4.0 1c:4.1 2:NA 2:4.1 3f:5.2 1:NA
  1d:5.2 2:NA b:5.2 6:NA a:5.2 6:NA e:5.2 2:NA f:7.0 2:13.0 e:14.0 31:NA 4c:5.0 1:14.0 1:NA
  2:16.0 2d:5.0 2:14.0 1:16.0 2b:5.1 3:6.1 c:5.1 6:6.1 34:6.0 8:NA 4:6.0 38:5.1 3:NA f:5.1
  3:NA 33:5.1 9:9.0 2:16.0 5:NA 2b:11.0 2:NA 3:11.0 8:6.1 8:NA 23:5.2 4:6.1 1:10.0 2:7.0
  1:12.0 5:NA 6c:4.0 58:4.1 7:5.0 1c:5.1 f:7.0 4:10.0 1:14.0 1:9.0 1:6.0 1:5.2 2:5.0 9b:1.1
  1:2.0 4:5.1 5a:1.1 6:5.1 16:1.1 2:NA 6:1.1 2:NA 26:1.1 2:NA 6:1.1 2:NA 8:1.1 1:NA 1:1.1
  1:NA 1:1.1 1:NA 1:1.1 1:NA 1f:1.1 2:NA 35:1.1 1:NA f:1.1 1:NA e:1.1 2:NA 6:1.1 1:NA 13:1.1
  2:NA 3:1.1 1:NA 9:1.1 1:NA 2f:1.1 1:3.0 17:1.1 1:3.2 6:3.0 5:3.2 2:4.0 2:4.1 1:3.2 7:4.1
  5:3.2 1:5.1 1:NA 4:6.3 7:1.1 1:3.2 2:NA 1b:1.1 1:NA 5:4.1 8:6.0 3:NA b:1.1 1:2.0 1:2.1
  3:3.0 2:3.2 4:4.1 3:5.2 1:6.0 1:6.2 3:7.0 1:8.0 1:10.0 1:14.0 f:NA 12:1.1 2:3.0 7:3.2 1:4.1
  4:5.0 1:5.1 f:NA 39:1.1 2:3.0 1:4.0 1:4.1 f:3.2 1:4.1 2:5.0 1:5.1 3:5.2 30:1.1 1:3.0 1:5.0
  4:5.1 1:5.2 2:8.0 4:NA 5b:1.1 9:3.0 c:3.2 f2:1.1 e:3.2 1:1.1 1:3.0 79:1.1 1:3.0 1:3.2
  1e:3.0 34:3.2 2:4.0 b:4.1 c:5.0 1:5.2 b:6.0 7:7.0 4:9.0 1:10.0 25:1.1 2:3.0 3:16.0 16:NA
  b:1.1 15:NA 8b:1.1 14:3.2 1:4.0 96:1.1 a:3.2 50:1.1 8:3.0 8:3.2 14:1.1 2:4.0 2:3.2 1:4.1
  1:3.0 56:1.1 2:3.0 c:3.2 2:4.1 a:3.2 8:4.0 b:4.1 1:5.1 2:5.2 2:4.0 10:4.1 1:5.0 a:5.1 3:5.2
  4:5.1 a:5.2 1:6.0 13:5.2 1:6.0 1:5.2 4:6.0 18:5.2 1:7.0 4:1.1 1:6.0 4:1.1 2:6.0 1c:1.1
  1:6.0 23:1.1 1:6.0 1:1.1 1:6.0 4:1.1 3:6.0 1:1.1 1:5.2 7:1.1 2:6.0 7:1.1 e:3.2 1f:1.1 3:6.0
  18:1.1 1:6.0 e:1.1 1:6.0 7:4.1 4:5.0 1:6.1 1:5.1 1:6.1 2:6.0 1c:3.2 4:5.1 10:3.2 100:3.0
  200:3.2 e:4.0 6:4.1 7:5.0 5:5.1 4:5.0 29:5.1 3:7.0 5:5.1 5:5.2 1a:7.0 2:NA 20:7.0 1:NA
  1:13.0 22:7.0 3:11.0 c:7.0 1:12.0 8:7.0 1:10.0 19:11.0 4:8.0 f:11.0 1:12.0 2f:4.1 1:14.0
  2f:4.1 1:14.0 d:5.0 3:5.1 1:5.2 3:5.1 4:5.0 6:5.1 2:5.2 6b:4.1 7:5.2 2:6.1 5:NA 2d:4.1 1:NA
  1:6.1 5:NA 1:6.1 2:NA 36:4.1 2:6.1 7:NA 1:4.1 1:6.0 e:NA 1:6.0 17:4.1 9:NA 7:4.1 1:NA 7:4.1
  1:NA 7:4.1 1:NA 7:4.1 1:NA 7:4.1 1:NA 7:4.1 1:NA 7:4.1 1:NA 7:4.1 1:NA 20:5.1 18:4.1 4:5.1
  2:4.1 13:5.1 1:5.2 a:6.1 7:7.0 2:9.0 5:10.0 5:11.0 1:12.0 3:13.0 b:14.0 22:NA 1a:3.0 1:NA
  59:3.0 c:NA d6:3.0 1a:NA c:3.0 4:15.1 38:1.1 3:3.0 3:3.2 1:3.0 1:1.1 1:NA 54:1.1 2:3.2 2:NA
  6:1.1 2:3.2 5e:1.1 1:3.2 5:NA 28:1.1 1:5.1 1:10.0 1:11.0 1:NA 5e:1.1 1:NA 10:1.1 18:3.0
  3:6.0 5:13.0 10:4.1 14:5.1 2:16.0 9:NA 1:15.1 10:3.2 1d:1.1 2:4.0 1:NA 24:1.1 c:5.2 1:4.0
  f:3.2 1c:1.1 2:4.0 1:4.1 32:1.1 f:3.2 c:1.1 4:4.0 2f:1.1 1:12.1 77:1.1 4:4.0 63:1.1 2:4.0
  1f:1.1 1:4.0 19b6:3.0 a:13.0 40:4.0 51a6:1.1 16:4.1 8:5.1 8:5.2 1:6.1 9:8.0 15:10.0 5:11.0
  d:13.0 3:14.0 48d:3.0 3:NA 12:3.0 2:3.2 10:3.0 1:3.2 c:3.0 1:3.2 3:3.0 1:3.2 1:3.0 9:NA
  30:5.2 12c:5.1 14:NA 20:5.1 2:6.0 12:5.1 8:6.1 1c:5.1 6:7.0 1:8.0 1:6.1 58:5.2 8:NA 17:4.1
  4:5.0 5:5.1 2:5.0 6b:5.1 2:6.0 1:8.0 2:6.0 2:6.1 c:7.0 a:6.0 1:6.1 3:7.0 1:9.0 1:11.0 2:7.0
  6:8.0 2:11.0 6:12.0 2:14.0 5:12.0 4:13.0 3:16.0 2:NA 2:14.0 1:NA 1:14.0 1:NA 5:14.0 3:16.0
  15:NA 3:14.0 2:13.0 1:7.0 2:6.1 1:6.0 5:5.1 2c:4.1 1:13.0 3:NA a:5.2 6:NA 38:5.0 8:NA
  45:5.1 1:9.0 8:NA c:5.1 6:NA 1c:5.2 2:8.0 2:11.0 54:5.1 b:NA 1:5.1 1d:5.2 3:NA 4e:5.2 1:NA
  b:5.2 4:NA 2:5.2 1f:7.0 1:NA 37:5.1 9:NA e:5.1 2:NA a:5.1 2:NA 4:5.1 1c:5.2 4:7.0 43:5.2
  18:NA 5:5.2 17:6.1 a:NA 6:6.0 2:NA 6:6.0 2:NA 6:6.0 9:NA 7:6.0 1:NA 7:6.0 1:NA 30:7.0 4:8.0
  2:7.0 2:12.0 4:13.0 4:NA 50:8.0 2e:5.2 2:NA a:5.2 6:NA 2ba4:2.0 c:NA 17:5.2 4:NA 31:5.2
  804:NA 1a2e:1.1 2:6.1 3b:3.2 3:5.2 2:NA 6a:4.1 26:NA 7:1.1 c:NA 5:1.1 5:NA 1:3.0 19:1.1
  1:NA 5:1.1 1:NA 1:1.1 1:NA 2:1.1 1:NA 2:1.1 1:NA 6c:1.1 10:6.0 1:14.0 10:NA 16d:1.1 10:14.0
  40:1.1 2:NA 36:1.1 7:NA 1:14.0 20:3.1 c:1.1 1:3.2 1:4.0 2:14.0 10:3.2 a:4.1 6:NA 4:1.1
  3:5.1 7:7.0 2:8.0 15:1.1 2:3.2 2:4.0 a:1.1 1:NA 13:1.1 1:NA 4:1.1 4:NA 3:1.1 1:3.2 1:1.1
  1:NA 87:1.1 2:NA 1:1.1 1:NA 5e:1.1 2:3.2 5e:1.1 3:NA 6:1.1 2:NA 6:1.1 2:NA 6:1.1 2:NA 3:1.1
  3:NA 7:1.1 1:NA 7:1.1 a:NA 3:3.0 1:2.1 3:1.1 c:4.0 1:NA 1a:4.0 1:NA 13:4.0 1:NA 2:4.0 1:NA
  f:4.0 2:NA e:4.0 22:NA 7b:4.0 5:NA 3:4.0 4:NA 2d:4.0 3:NA 9:4.0 4b:4.1 2:7.0 2:9.0 1:NA
  c:5.1 1:13.0 3:NA 1:7.0 2f:NA 2e:5.1 82:NA 1d:5.1 3:NA 31:5.1 f:NA 1c:7.0 4:NA 1f:3.1 1:7.0
  4:3.1 9:NA 3:10.0 1b:3.1 5:NA 2b:7.0 5:NA 1e:4.0 1:NA 1:4.0 24:4.1 4:NA e:4.1 2a:NA 26:3.1
  2:4.0 26:3.1 50:4.0 2:NA a:4.0 6:NA 24:9.0 4:NA 24:9.0 4:NA 28:7.0 8:NA 34:7.0 b:NA 1:7.0
  b:14.0 1:NA f:14.0 1:NA 7:14.0 1:NA 2:14.0 1:NA b:14.0 1:NA f:14.0 1:NA 7:14.0 1:NA 2:14.0
  3:NA 34:16.0 c:NA 137:7.0 9:NA 16:7.0 a:NA 8:7.0 18:NA 6:14.0 1:NA 2a:14.0 1:NA 9:14.0
  45:NA 6:4.0 2:NA 1:4.0 1:NA 2c:4.0 1:NA 2:4.0 3:NA 1:4.0 2:NA 1:4.0 16:5.2 1:NA 9:5.2
  3f:7.0 8:NA 9:7.0 30:NA 13:8.0 1:NA 2:8.0 5:NA 5:8.0 1a:5.0 2:5.2 3:NA 1:5.0 1a:5.1 5:NA
  1:5.1 40:NA 38:6.1 4:NA 2:8.0 2:6.1 10:8.0 2:NA 2e:8.0 4:4.1 1:NA 2:4.1 5:NA 8:4.1 1:NA
  3:4.1 1:NA 1b:4.1 2:11.0 2:NA 3:4.1 4:NA 9:4.1 1:11.0 7:NA 9:4.1 7:NA 20:5.2 20:7.0 20:NA
  27:7.0 4:NA c:7.0 9:NA 36:5.2 3:NA 1d:5.2 2:NA 1b:5.2 5:NA 8:5.2 12:7.0 7:NA 4:7.0 c:NA
  7:7.0 50:NA 49:5.2 37:NA 33:8.0 d:NA 33:8.0 7:NA 6:8.0 28:11.0 8:NA a:11.0 6:NA 26:16.0
  3:NA 1d:16.0 8:NA 2:16.0 d0:NA 1f:5.2 1:NA 2a:13.0 1:NA 3:13.0 2:NA 2:13.0 10:NA 3:16.0
  37:NA 1:16.0 3:15.0 28:11.0 8:NA 2a:11.0 16:NA 1a:14.0 26:NA 1c:13.0 14:NA 17:12.0 9:NA
  4e:6.0 4:NA 1e:6.0 6:14.0 9:NA 1:7.0 42:5.2 1:14.0 a:NA 1:11.0 2:NA 19:6.1 7:NA a:6.1 6:NA
  35:6.1 1:NA e:6.1 3:11.0 1:13.0 8:NA 27:7.0 9:NA 49:6.1 4:8.0 1:7.0 2:13.0 a:6.1 1:7.0
  5:8.0 1:NA 14:7.0 b:NA 12:7.0 1:NA 2b:7.0 1:9.0 3:15.0 3e:NA 7:8.0 1:NA 1:8.0 1:NA 4:8.0
  1:NA f:8.0 1:NA b:8.0 6:NA 3b:7.0 5:NA a:7.0 6:NA 1:8.0 3:7.0 1:NA 8:7.0 2:NA 2:7.0 2:NA
  16:7.0 1:NA 7:7.0 1:NA 2:7.0 1:NA 5:7.0 1:NA 1:11.0 9:7.0 2:NA 2:7.0 2:NA 3:7.0 2:NA 1:8.0
  6:NA 1:7.0 5:NA 7:7.0 2:NA 7:7.0 3:NA 5:7.0 b:NA a:16.0 1:NA 1:16.0 2:NA 1:16.0 1:NA
  26:16.0 1:NA a:16.0 1:NA 1:16.0 2:NA 1:16.0 1:NA 4:16.0 1:NA a:16.0 1:NA 2:16.0 8:NA 2:16.0
  1d:NA 5a:9.0 1:13.0 1:9.0 1:NA 1:9.0 1:11.0 1:12.0 2:13.0 1e:NA 48:7.0 8:NA a:7.0 a6:NA
  36:7.0 2:NA 12:7.0 14:8.0 22:NA 45:7.0 b:NA a:7.0 6:NA d:9.0 13:NA 38:6.1 1:12.0 1:14.0
  6:NA a:6.1 6:NA 14:16.0 1c:NA 1a:8.0 1:11.0 2:NA f:8.0 4:NA 10:8.0 7:14.0 b9:NA 3c:11.0
  64:NA 53:7.0 c:NA 1:7.0 7:13.0 2:NA 1:13.0 2:NA 8:13.0 1:NA 2:13.0 1:NA 1e:13.0 1:NA 2:13.0
  2:NA c:13.0 9:NA a:13.0 46:NA 8:12.0 2:NA 2e:12.0 2:NA b:12.0 1b:NA 48:10.0 8:NA 34:10.0
  2:12.0 17:10.0 1:11.0 5:10.0 d:NA 10:14.0 39:7.0 7:NA a:15.0 b6:NA 22:16.0 e:NA a:16.0 6:NA
  9:9.0 1:NA 2d:9.0 1:NA e:9.0 a:NA 1d:9.0 3:NA 20:9.0 2:NA 16:9.0 1:NA e:9.0 49:NA 7:10.0
  1:NA 2:10.0 1:NA 2c:10.0 3:NA 1:10.0 1:NA 2:10.0 1:NA 9:10.0 8:NA a:10.0 6:NA 6:11.0 1:NA
  2:11.0 1:NA 25:11.0 1:NA 2:11.0 1:NA 6:11.0 7:NA a:11.0 136:NA 19:11.0 7:NA 11:15.0 1:NA
  29:15.0 3:NA 1c:15.0 1:16.0 55:NA 1:13.0 f:NA 32:12.0 d:NA 1:12.0 36f:5.0 2a:7.0 1:8.0
  66:NA 63:5.0 c:7.0 1:NA 4:5.0 1:7.0 b:NA c4:8.0 a4c:NA 63:14.0 d:NA 42f:5.2 1:15.0 9:12.0
  1d:15.0 a:NA f9b:16.0 5:NA 247:8.0 1ab9:NA 3a:16.0 6c6:NA 239:6.0 7:NA 1f:7.0 1:NA a:7.0
  4:NA 2:7.0 4f:14.0 1:NA a:14.0 6:NA 1e:7.0 2:NA 6:7.0 a:NA 46:7.0 a:NA a:7.0 1:NA 7:7.0
  1:NA 15:7.0 5:NA 13:7.0 1b0:NA 3a:16.0 c6:NA 5b:11.0 65:NA 45:6.1 6:12.0 4:NA 1:12.0 2f:6.1
  9:12.0 7:NA 11:6.1 40:NA 1:9.0 1:10.0 2:12.0 1:13.0 b:NA 2:13.0 e:NA 17ed:9.0 5:11.0 6:12.0
  8:NA 2f3:9.0 1e3:13.0 29:NA 1:16.0 9:13.0 22e7:NA 4:14.0 1:NA 7:14.0 1:NA 2:14.0 1:NA 2:6.0
  11d:10.0 4:14.0 f:NA 1:15.0 1d:NA 3:12.0 2:NA 1:15.0 e:NA 4:12.0 8:NA 18c:10.0 904:NA
  6b:7.0 5:NA d:7.0 3:NA 9:7.0 7:NA a:7.0 2:NA 8:7.0 f5c:NA fa:16.0 6:NA 1b4:16.0 4c:NA
  2e:14.0 2:NA 17:14.0 9:NA 74:14.0 3c:NA f6:3.1 a:NA 27:3.1 2:NA 1:5.1 b4:3.1 b:8.0 2:14.0
  15:NA 46:4.1 7a:NA 14:15.0 c:NA 14:11.0 c:NA 57:4.0 9:NA 12:5.0 7:11.0 87:NA 55:3.1 1:NA
  47:3.1 1:NA 2:3.1 2:NA 1:3.1 2:NA 2:3.1 2:NA 4:3.1 1:NA c:3.1 1:NA 1:3.1 1:NA 4:3.1 1:4.0
  2:3.1 1:NA 41:3.1 1:NA 4:3.1 2:NA 8:3.1 1:NA 7:3.1 1:NA 1c:3.1 1:NA 4:3.1 1:NA 5:3.1 1:NA
  1:3.1 3:NA 7:3.1 1:NA 152:3.1 2:4.1 2:NA 122:3.1 2:5.0 2:NA 32:3.1 28c:8.0 f:NA 5:8.0 1:NA
  f:8.0 450:NA 1f:14.0 6:NA 6:15.0 d5:NA 7:9.0 1:NA 11:9.0 2:NA 7:9.0 1:NA 2:9.0 1:NA 5:9.0
  5:NA 3e:15.0 21:NA 1:15.0 70:NA 2d:12.0 3:NA e:12.0 2:NA a:12.0 4:NA 2:12.0 140:NA 1f:14.0
  11:NA 3a:12.0 5:NA 1:12.0 1d0:NA 2a:15.0 d6:NA 2b:16.0 4:NA 1:16.0 1e0:NA 7:14.0 1:NA
  4:14.0 1:NA 2:14.0 1:NA f:14.0 1:NA c5:7.0 2:NA 10:7.0 29:NA 4b:9.0 1:12.0 4:NA a:9.0 4:NA
  2:9.0 311:NA 44:11.0 4c:NA 3d:12.0 c2:NA 4:6.1 1:NA 1b:6.1 1:NA 2:6.1 1:NA 1:6.1 2:NA 1:6.1
  1:NA a:6.1 1:NA 4:6.1 1:NA 1:6.1 1:NA 1:6.1 6:NA 1:6.1 4:NA 1:6.1 1:NA 1:6.1 1:NA 1:6.1
  1:NA 3:6.1 1:NA 2:6.1 1:NA 1:6.1 2:NA 1:6.1 1:NA 1:6.1 1:NA 1:6.1 1:NA 1:6.1 1:NA 1:6.1
  1:NA 2:6.1 1:NA 1:6.1 2:NA 4:6.1 1:NA 7:6.1 1:NA 4:6.1 1:NA 4:6.1 1:NA 1:6.1 1:NA a:6.1
  1:NA 11:6.1 5:NA 3:6.1 1:NA 5:6.1 1:NA 11:6.1 34:NA 2:6.1 10e:NA 2c:5.1 4:NA 64:5.1 c:NA
  f:6.0 2:NA e:6.0 1:7.0 1:NA f:6.0 1:NA f:6.0 16:7.0 a:NA b:5.2 2:7.0 3:13.0 1f:5.2 1:11.0
  1:6.0 1:5.2 b:6.0 1:5.2 1:6.0 1:5.2 2:6.0 1:5.2 3:6.0 1:5.2 3:6.0 5:5.2 8:6.0 1:5.2 7:6.0
  1:5.2 a:6.0 2:6.1 1:12.0 3:13.0 9:6.0 1:5.2 1:6.0 2:5.2 2:6.0 1:5.2 a:6.0 4:5.2 2:6.0 1:5.2
  a:6.0 12:9.0 1:13.0 38:NA 1a:6.0 1:5.2 2:6.0 d:NA 22:5.2 9:6.0 1:9.0 4:NA 9:5.2 7:NA 2:6.0
  e:NA 6:10.0 9a:NA 21:6.0 c:7.0 3:8.0 6:6.0 1:7.0 46:6.0 1:7.0 2:8.0 14:6.0 c:7.0 25:6.0
  1:7.0 5:6.0 4:7.0 5:8.0 c:7.0 11:6.0 7:7.0 8:8.0 3f:6.0 1:7.0 1:6.0 1:7.0 b6:6.0 1:7.0
  4:6.0 2:7.0 1:8.0 3e:6.0 2:7.0 4:6.1 7:7.0 5:8.0 18:6.0 12:7.0 1:9.0 29:7.0 1:9.0 56:7.0
  5:6.0 1:6.1 10:6.0 1:6.1 3:6.0 1:6.1 1:6.0 1:6.1 1:6.0 1:6.1 1:6.0 1:6.1 3:6.0 1:6.1 6:6.0
  2:6.1 4:6.0 1:6.1 1:6.0 2:6.1 4:6.0 1:6.1 c:6.0 2:7.0 2:8.0 b:6.0 30:7.0 46:6.0 a:7.0 1:8.0
  2:9.0 2:10.0 1:12.0 2:13.0 4:NA 1:15.0 3:14.0 d:7.0 3:NA 4:7.0 3:9.0 2:10.0 1:11.0 1:12.0
  2:13.0 3:NA 74:6.0 3:15.0 4:NA 5:15.0 55:7.0 4:11.0 1:15.0 6:NA c:12.0 4:NA 1:14.0 f:NA
  c:7.0 4:NA 38:7.0 8:NA a:7.0 6:NA 28:7.0 8:NA 1e:7.0 2:NA 2:13.0 a:16.0 4:NA 2:16.0 3e:NA
  c:10.0 1:13.0 3:12.0 9:8.0 6:9.0 1:10.0 8:9.0 8:10.0 1:9.0 2:10.0 c:9.0 1:12.0 c:9.0 1:10.0
  3:11.0 f:9.0 d:10.0 5:11.0 1:12.0 1:13.0 4:11.0 2:13.0 1:14.0 1:11.0 1:12.0 4:11.0 5:8.0
  d:9.0 6:10.0 b:11.0 2:13.0 6:12.0 3:13.0 2:12.0 a:11.0 6:12.0 1:8.0 2:11.0 8:12.0 1:13.0
  1:14.0 3:12.0 17:10.0 19:11.0 54:12.0 c:NA e:11.0 2:NA 4:12.0 1:13.0 3:15.0 3:12.0 2:14.0
  3:NA 3:12.0 4:13.0 2:15.0 1:16.0 5:NA 1:16.0 6:12.0 13:13.0 4:14.0 3:15.0 7:13.0 4:14.0
  3:15.0 1:16.0 1:15.0 3:13.0 3:14.0 1:16.0 7:NA 2:15.0 7:13.0 3:14.0 2:15.0 1:16.0 2:NA
  1:16.0 8:14.0 1:15.0 1:16.0 6:NA 7:14.0 2:15.0 7:NA 93:13.0 1:NA 37:13.0 25:16.0 a:13.0
  404:NA 2:2.0 a6d7:3.1 7:13.0 2:14.0 20:NA 1035:5.2 4:14.0 1:15.0 6:NA de:6.0 2:NA 1682:8.0
  e:NA 1d31:10.0 f:NA 26e:15.1 9a2:NA 21e:3.1 5e0:NA 2:2.0 134b:13.0 5:NA 1060:15.0 dc4e:NA
  2:2.0 fffe:NA 2:2.0 fffe:NA 2:2.0 fffe:NA 2:2.0 fffe:NA 2:2.0 fffe:NA 2:2.0 fffe:NA 2:2.0
  fffe:NA 2:2.0 fffe:NA 2:2.0 fffe:NA 2:2.0 fffe:NA 2:2.0 1:NA 1:3.1 1e:NA 60:3.1 80:NA
  f0:4.0 fe0e:NA 20002:2.0"

/-- The versions in order, oldest first. -/
def versions : List String :=
  ["1.1", "2.0", "2.1", "3.0", "3.1", "3.2", "4.0", "4.1", "5.0", "5.1", "5.2", "6.0", "6.1",
   "6.2", "6.3", "7.0", "8.0", "9.0", "10.0", "11.0", "12.0", "12.1", "13.0", "14.0", "15.0",
   "15.1", "16.0"]

/-- A version by its number, or by its number after a `v` and without the point. -/
def version? (name : String) : Option String :=
  versions.find? fun v => name = v || name = "v" ++ v.replace "." ""

/-- The characters assigned in a version or in an older one. -/
def chars (version : String) : CharSet :=
  let upTo := (versions.takeWhile (· ≠ version)) ++ [version]
  Table.select table upTo.contains

end RecordValidation.Age
