import FeedSieve.Time.Zone.Source

/-!
# Zones of the oceans, Australia and the polar regions

One row per zone, in the notation of `FeedSieve.Time.Zone.Source`.
-/
namespace FeedSieve.Time.Zone

/-- The rows of the zones of the oceans, Australia and the polar regions. -/
def ocean : List Source := [
  ⟨"Antarctica/Casey", 0,
    [⟨28800, false⟩, ⟨39600, false⟩],
    [0x13de10d00004cbb39a01000b5c4d0000319d13010009a31700008c66df0100299d39000011505301000d409400,
     0x0010927b01000cd7fd0000114db3c1000d4171400010bcaec1000d4171400010bcaec1000d04cc40],
    none⟩,
  ⟨"Antarctica/Davis", 0,
    [⟨25200, false⟩, ⟨0, false⟩, ⟨18000, false⟩],
    [0x1275e8080000eab9f101007ffcbf0004c9269302000bde610000311aff020009a4d900],
    none⟩,
  ⟨"Antarctica/Macquarie", 0,
    [⟨36000, false⟩, ⟨39600, true⟩, ⟨0, false⟩],
    [0x0bbc75680001fd062801000e6b6800003cb8560203684b3a00024b625001000eff100000114db001000af57800,
     0x001308a801000af57800001308a801000b892000001308a8010009ce280000142ff801000a61d00000139c5001,
     0x000a61d00000139c5001000a61d00000139c5001000af5780000139c5001000a61d00000139c5001000a61d000,
     0x00139c5001000a61d00000139c5001000a61d00000139c5001000a61d00000139c5001000cb070000011e15801,
     0x000c1cc8000011e15801000a61d00000139c5001000a61d00000139c5001000a61d000001308a801000c1cc800,
     0x0012750001000c1cc8000012750001000b8920000012750001000b8920000012750001000cb07000000f92b801,
     0x000e6b6800000f92b801000e6b6800000f92b801000e6b6800000f92b801000e6b6800000f92b801000eff1000,
     0x000f92b801000e6b6800000f92b801000e6b6800000f92b801000e6b6800000f92b801000e6b6800000cb07001,
     0x00114db0000010266001000e6b6800000f92b801000e6b6800000f92b801000e6b6800000f92b801000e6b6800,
     0x000f92b801000eff1000000eff1001000e6b68000010266001000eff1000000eff1001000eff1000000eff1001,
     0x002cfd3000],
    some ⟨⟨36000, false⟩, ⟨39600, true⟩, ⟨10, 1, 0, 7200⟩, ⟨4, 1, 0, 10800⟩⟩⟩,
  ⟨"Antarctica/Mawson", 0,
    [⟨21600, false⟩, ⟨18000, false⟩],
    [0x121e273000068b9efc01],
    none⟩,
  ⟨"Antarctica/Palmer", 0,
    [⟨-10800, true⟩, ⟨-14400, false⟩, ⟨-10800, false⟩, ⟨-7200, true⟩],
    [0x1365aed8000004df2b010012ca4100000b48f7010012ca4100000debf701000efff100000f91d701000efff100,
     0x000efe2f01000efff10200817167030008124f0200f0c4d101000d5a1100000caf8f0100114e9100000caf8f01,
     0x0011e23900000c1be7010011e23900000c1be7010011e23900000efe2f01000efff100000caf8f0100114e9100,
     0x000caf8f010011e23900000c1be701000f939900000e6a87010011e23900000caf8f0100114e9100000caf8f01,
     0x00114e9100000caf8f0100114e9100000caf8f010011e23900000c1be7010011e23900000dd6df010010274100,
     0x000caf8f010010274100000f91d701000f939900000caf8f010011e23900000c1be7010011e23900000c1be701,
     0x0011e23900000c1be7010011e23900000caf8f0100114e9100000caf8f0100114e9100000caf8f010011e23900,
     0x000c1be7010011e23900000dd6df010010274100000caf8f0100114e9100000e6a8701000f93990000114ccf01,
     0x0008a7b9000014c2bf01000a62b10000139b6f01000af65900001307c701000af659000032c0df010007806900,
     0x0009399f02],
    none⟩,
  ⟨"Antarctica/Rothera", 0,
    [⟨-10800, false⟩],
    [0x14cc46d800],
    none⟩,
  ⟨"Antarctica/Troll", 0,
    [⟨7200, true⟩],
    [0x1820846100],
    some ⟨⟨0, false⟩, ⟨7200, true⟩, ⟨3, 5, 0, 3600⟩, ⟨10, 5, 0, 10800⟩⟩⟩,
  ⟨"Antarctica/Vostok", 0,
    [⟨25200, false⟩, ⟨0, false⟩, ⟨18000, false⟩],
    [0x1291aca000043f4af901001684bf00036c9c0302],
    none⟩,
  ⟨"Atlantic/Azores", -6160,
    [⟨-6872, false⟩, ⟨-7200, false⟩, ⟨-3600, true⟩, ⟨0, true⟩, ⟨-3600, false⟩, ⟨0, false⟩,
     ⟨3600, true⟩],
    [0x09dff5c100034a98f10100864def02000b35a1010009e340020012c87f01000b4ab9020012c87f01000b4ab902,
     0x0012c87f01000b5fd1020012c87f01000b4ab9020012c87f01004b64c802000e170801002e248002000dd7c001,
     0x000f92b802000e6b68010010266002000e6b68010010266002000dd7c001002e248002000dd7c001000eff1002,
     0x000eff1001002d90d802000eff1001000e6b6802000f92b8010010266002000dd7c001000eff1002000eff1001,
     0x000e6b6802000f92b80100102660020011e15801000813300200129f3001000ed4e002000f142801000d2f0002,
     0x0003750f0300093a80020005c57101000b8920020002e16703000af57802000531c901000af578020003750f03,
     0x000a61d002000531c901000af578020003750f03000a61d002000531c901000d441802000eff1001000f01b302,
     0x000eff1001000eff1002000eff1001000eff1002000eff1001000eff1002000eff1001000eff1002000f92b801,
     0x000eff1002000eff1001000eff1002000eff1001000eff1002000eff1001000eff1002000eff1001000eff1002,
     0x000f92b801000eff1002000eff1001000eff1002000eff1001000eff1002000eff1001000eff1002000eff1001,
     0x000eff1002000eff1001000eff1002000f92b801000eff1002000eff1001000eff1002000eff1001000eff1002,
     0x000eff1001000eff1002000eff100401d2079d03000eff1004000eff1003000eff1004000eff1003000f92b804,
     0x000eff1003000eff1004000eff1003000eff1004000eff1003000eff1004000eff1003000eff1004000eff1003,
     0x000eff1004000eff1003000f92b804000eff1003000eff1004000eff1003000eff1004000780690500077ea706,
     0x0006ac98030008527804000eff1003000eff1004000eff1003000eff1004000f92b803],
    some ⟨⟨-3600, false⟩, ⟨0, true⟩, ⟨3, 5, 0, 0⟩, ⟨10, 5, 0, 3600⟩⟩⟩,
  ⟨"Atlantic/Bermuda", -15558,
    [⟨-11958, true⟩, ⟨-15558, false⟩, ⟨-14400, false⟩, ⟨-10800, true⟩],
    [0x0dc8eeec60000ea9cf010010122900000cc4a7010153e65b020169f88fa30017115f02000cb151030012741f02,
     0x000af6590300139b6f02000a62b10300139b6f02002e2561030009cd47020014c481030008a5f7020015582903,
     0x0008a5f7020015ebd1030008124f020015ebd1030008124f020015ebd1030008a5f702006fe63103000caf8f02,
     0x020e9b0903000efe2f02000efff103000efe2f02000efff103000f91d702000e6c4903000f91d702000efff103,
     0x000efe2f02000efff103000efe2f02000efff103000efe2f02000efff103000efe2f02000efff103000f91d702,
     0x000e6c4903000f91d702000efff103000efe2f02000efff103000efe2f02000efff103000efe2f02000d44f903,
     0x0010b92702000d44f90300114ccf02000cb1510300114ccf02000cb1510300114ccf02000d44f9030010b92702,
     0x000d44f9030010b92702000d44f90300114ccf02000cb1510300114ccf02000cb1510300114ccf02000d44f903,
     0x0010b92702000d44f9030010b92702000d44f9030010b92702000d44f90300114ccf02000cb1510300114ccf02,
     0x000cb1510300114ccf02000d44f9030010b92702000d44f9030010b92702000d44f90300114ccf02000cb15103,
     0x00114ccf02000cb1510300114ccf02000af65903],
    some ⟨⟨-14400, false⟩, ⟨-10800, true⟩, ⟨3, 2, 0, 7200⟩, ⟨11, 1, 0, 7200⟩⟩⟩,
  ⟨"Atlantic/Canary", -3696,
    [⟨-3600, false⟩, ⟨0, false⟩, ⟨3600, true⟩],
    [0x0e5c69d70002e3d9a30103f0b3ee02000e6c4901000eff1002000eff1001000eff1002000eff1001000eff1002,
     0x000eff1001000eff1002000f92b801000eff1002000eff1001000eff1002000eff1001000eff1002000eff1001,
     0x000eff1002000eff1001000eff1002000eff1001000eff1002000f92b801000eff1002000eff1001000eff1002,
     0x000eff1001000eff1002000eff1001000eff1002000eff1001000eff1002000eff1001000f92b802],
    some ⟨⟨0, false⟩, ⟨3600, true⟩, ⟨3, 5, 0, 3600⟩, ⟨10, 5, 0, 7200⟩⟩⟩,
  ⟨"Atlantic/Cape_Verde", -5644,
    [⟨-7200, false⟩, ⟨-3600, true⟩, ⟨-3600, false⟩],
    [0x0d2a8eb200039aef1801005dedff00038a37b302],
    none⟩,
  ⟨"Atlantic/Faroe", -1624,
    [⟨0, false⟩, ⟨3600, true⟩],
    [0x0cb2fe4d80089b647381000eff1000000eff1001000eff1000000eff1001000eff1000000eff1001000f92b800,
     0x000eff1001000eff1000000eff1001000eff1000000eff1001000eff1000000eff1001000eff1000000eff1001,
     0x000eff1000000eff1001000f92b800000eff1001000eff1000000eff1001000eff1000000eff1001000eff1000,
     0x000eff1001000eff1000000eff1001000eff1000000f92b801],
    some ⟨⟨0, false⟩, ⟨3600, true⟩, ⟨3, 5, 0, 3600⟩, ⟨10, 5, 0, 7200⟩⟩⟩,
  ⟨"Atlantic/Madeira", -4056,
    [⟨-3600, false⟩, ⟨0, true⟩, ⟨3600, true⟩, ⟨0, false⟩],
    [0x0d2a8dd10000864def01000b35a1000009e340010012c87f00000b4ab9010012c87f00000b4ab9010012c87f00,
     0x000b5fd1010012c87f00000b4ab9010012c87f00004b64c801000e170800002e248001000dd7c000000f92b801,
     0x000e6b68000010266001000e6b68000010266001000dd7c000002e248001000dd7c000000eff1001000eff1000,
     0x002d90d801000eff1000000e6b6801000f92b8000010266001000dd7c000000eff1001000eff1000000e6b6801,
     0x000f92b80000102660010011e15800000813300100129f3000000ed4e001000f142800000d2f00010003750f02,
     0x00093a80010005c57100000b8920010002e16702000af57801000531c900000af578010003750f02000a61d001,
     0x000531c900000af578010003750f02000a61d001000531c900000d441801000eff1000000f01b301000eff1000,
     0x000eff1001000eff1000000eff1001000eff1000000eff1001000eff1000000eff1001000f92b800000eff1001,
     0x000eff1000000eff1001000eff1000000eff1001000eff1000000eff1001000eff1000000eff1001000f92b800,
     0x000eff1001000eff1000000eff1001000eff1000000eff1001000eff1000000eff1001000eff1000000eff1001,
     0x000eff1000000eff1001000f92b800000eff1001000eff1000000eff1001000eff1000000eff1001000eff1000,
     0x000eff1001000eff100301d29b4502000e6b6803000eff1002000eff1003000eff1002000f92b803000eff1002,
     0x000eff1003000eff1002000efff103000eff1002000eff1003000eff1002000eff1003000eff1002000eff1003,
     0x000eff1002000f92b803000eff1002000eff1003000eff1002000eff1003000eff1002000eff1003000eff1002,
     0x000eff1003000eff1002000eff1003000f92b802],
    some ⟨⟨0, false⟩, ⟨3600, true⟩, ⟨3, 5, 0, 3600⟩, ⟨10, 5, 0, 7200⟩⟩⟩,
  ⟨"Atlantic/South_Georgia", -8768,
    [⟨-7200, false⟩],
    [0x0a9493e400],
    none⟩,
  ⟨"Atlantic/Stanley", -13884,
    [⟨-14400, false⟩, ⟨-10800, true⟩, ⟨-10800, false⟩, ⟨-7200, true⟩],
    [0x0d3069fbc00300afb841000e6a8700000f939901000e6a87000010274101000e6a8700000f939901000e6a8700,
     0x000f939901000e6a8700000f9399010007e81f0004bdb7d102000c1be7030011e07702000b8a01030012741f02,
     0x000b8a01010011e15800000c1da9010011e07700000c1da9010011e07700000c1da9010011e07700000c1da901,
     0x0012741f00000b8a01010012741f00000c1da9010011e07700000c1da9010011e07700000c1da9010011e07700,
     0x000c1da9010011e07700000c1da9010012741f00000c1da9010011e07700000c1da9010011e07700000c1da901,
     0x0011e07700000c1da9010011e07700000c1da9010011e23900000b8a0101001307c700000af65901001307c700,
     0x000b8a01010012741f00000b8a01010012741f00000b8a01010012741f00000b8a01010012741f00000b8a0101,
     0x001307c700000b8a01010012741f00000b8a01010012741f00000b8a0102],
    none⟩,
  ⟨"Australia/Adelaide", 33260,
    [⟨32400, false⟩, ⟨34200, false⟩, ⟨37800, true⟩],
    [0x0b2d8cb940007fb785c10213cc61820006d6c80102e988400200072b2801000eff1002000eff1001000f92b802,
     0x000e6b6801033e9100020009ce280100142ff802000a61d00100139c5002000a61d00100139c5002000a61d001,
     0x00139c5002000af5780100139c5002000a61d00100139c5002000a61d00100139c5002000a61d00100139c5002,
     0x000a61d00100139c5002000a61d00100139c5002000af5780100139c5002000a61d00100139c5002000a61d001,
     0x00139c5002000a61d00100139c5002000b8920010011e15802000c1cc8010012750002000c1cc8010012750002,
     0x000b8920010012750002000b8920010012750002000a61d00100139c5002000c1cc8010011e15802000af57801,
     0x00139c5002000b8920010012750002000c1cc8010011e15802000cb0700100114db002000cb0700100114db002,
     0x000cb0700100114db002000cb070010011e15802000c1cc8010011e15802000c1cc8010011e15802000cb07001,
     0x00114db002000cb0700100114db002000cb070010011e15802000c1cc8010011e15802000cb0700100114db002,
     0x000c1cc8010011e15802],
    some ⟨⟨34200, false⟩, ⟨37800, true⟩, ⟨10, 1, 0, 7200⟩, ⟨4, 1, 0, 10800⟩⟩⟩,
  ⟨"Australia/Brisbane", 36728,
    [⟨36000, false⟩, ⟨39600, true⟩],
    [0x0b2afdf88002961237810006d6c80002e988400100072b2800000eff1001000eff1000000f92b801000e6b6800,
     0x033e9100010009ce28000213cb1001000a61d00000139c5001000a61d00000139c5001000a61d000],
    none⟩,
  ⟨"Australia/Broken_Hill", 33948,
    [⟨36000, false⟩, ⟨32400, false⟩, ⟨34200, false⟩, ⟨37800, true⟩],
    [0x0b2d8c8e40002ee1d7c10050d5d9020213cc61830006d6c80202e988400300072b2802000eff1003000eff1002,
     0x000f92b803000e6b6802033e9100030009ce280200142ff803000a61d00200139c5003000a61d00200139c5003,
     0x000a61d00200139c5003000af5780200139c5003000a61d00200139c5003000a61d00200139c5003000a61d002,
     0x00139c5003000a61d00200139c5003000a61d00200139c5003000d44180200114db003000a61d00200139c5003,
     0x000a61d00200139c5003000a61d00200139c5003000b8920020011e15803000c1cc8020012750003000c1cc802,
     0x0012750003000b8920020012750003000a61d00200139c5003000a61d00200139c5003000a61d00200139c5003,
     0x000af5780200139c5003000a61d00200139c5003000a61d00200139c5003000cb0700200114db003000cb07002,
     0x00114db003000cb0700200114db003000cb070020011e15803000c1cc8020011e15803000c1cc8020011e15803,
     0x000cb0700200114db003000cb0700200114db003000cb070020011e15803000c1cc8020011e15803000cb07002,
     0x00114db003000c1cc8020011e15803],
    some ⟨⟨34200, false⟩, ⟨37800, true⟩, ⟨10, 1, 0, 7200⟩, ⟨4, 1, 0, 10800⟩⟩⟩,
  ⟨"Australia/Darwin", 31400,
    [⟨32400, false⟩, ⟨34200, false⟩, ⟨37800, true⟩],
    [0x0b2d8d2d80007fb711810213cc61820006d6c80102e988400200072b2801000eff1002000eff1001000f92b802,
     0x000e6b6801],
    none⟩,
  ⟨"Australia/Eucla", 30928,
    [⟨31500, false⟩, ⟨35100, true⟩],
    [0x0b4684b300027a8c96410006d6c80002e988400100072b2800000eff1001000eff100003b6898001000a61d000,
     0x0104b4a001000a61d00000e7ddd0010008a6d80001bc1f500100093a80000011e15801000cb0700000114db001,
     0x000cb07000],
    none⟩,
  ⟨"Australia/Hobart", 35356,
    [⟨36000, false⟩, ⟨39600, true⟩],
    [0x0b3f041640027a7779c1000e6b68000011e15801000a61d00000139c5001000a61d00002af46f80100072b2800,
     0x000eff1001000eff1000000f92b801000e6b680002c3b63801000eff100000114db001000af57800001308a801,
     0x000af57800001308a801000b892000001308a8010009ce280000142ff801000a61d00000139c5001000a61d000,
     0x00139c5001000a61d00000139c5001000af5780000139c5001000a61d00000139c5001000a61d00000139c5001,
     0x000a61d00000139c5001000a61d00000139c5001000a61d00000139c5001000cb070000011e15801000c1cc800,
     0x0011e15801000a61d00000139c5001000a61d00000139c5001000a61d000001308a801000c1cc8000012750001,
     0x000c1cc8000012750001000b8920000012750001000b8920000012750001000cb07000000f92b801000e6b6800,
     0x000f92b801000e6b6800000f92b801000e6b6800000f92b801000e6b6800000f92b801000eff1000000f92b801,
     0x000e6b6800000f92b801000e6b6800000f92b801000e6b6800000f92b801000e6b6800000cb0700100114db000,
     0x0010266001000e6b6800000f92b801000e6b6800000f92b801000e6b6800000f92b801000e6b6800000f92b801,
     0x000eff1000000eff1001000e6b68000010266001],
    some ⟨⟨36000, false⟩, ⟨39600, true⟩, ⟨10, 1, 0, 7200⟩, ⟨4, 1, 0, 10800⟩⟩⟩,
  ⟨"Australia/Lindeman", 35756,
    [⟨36000, false⟩, ⟨39600, true⟩],
    [0x0b2afe3540029611fac10006d6c80002e988400100072b2800000eff1001000eff1000000f92b801000e6b6800,
     0x033e9100010009ce28000213cb1001000a61d00000139c5001000a61d00000139c5001000a61d00000139c5001,
     0x000af5780000139c5001000a61d000],
    none⟩,
  ⟨"Australia/Lord_Howe", 38180,
    [⟨36000, false⟩, ⟨37800, false⟩, ⟨41400, true⟩, ⟨39600, true⟩],
    [0x0b2d8b85c00a1e7ef04100139da182000af4970100139d3102000a60ef0100139d3102000a60ef0100139d3102,
     0x000a60ef0100139d3103000b88af810011e1c883000c1c57810012757083000c1c57810012757083000b88af81,
     0x0012757083000a615f8100139cc083000a615f8100139cc083000a615f8100139cc083000af5078100139cc083,
     0x000a615f8100139cc083000a615f8100139cc083000cafff8100114e2083000cafff8100114e2083000cafff81,
     0x00114e2083000cafff810011e1c883000c1c5781000cb0e08300114d3f810011e1c883000cafff8100114e2083,
     0x000cafff8100114e2083000cafff810011e1c883000c1c57810011e1c883000cafff8100114e2083000c1c5781,
     0x0011e1c883],
    some ⟨⟨37800, false⟩, ⟨39600, true⟩, ⟨10, 1, 0, 7200⟩, ⟨4, 1, 0, 7200⟩⟩⟩,
  ⟨"Australia/Melbourne", 34792,
    [⟨36000, false⟩, ⟨39600, true⟩],
    [0x0b2d8c5980029383d6810006d6c80002e988400100072b2800000eff1001000eff1000000f92b801000e6b6800,
     0x033e9100010009ce280000142ff801000a61d00000139c5001000a61d00000139c5001000a61d00000139c5001,
     0x000af5780000139c5001000a61d00000139c5001000a61d00000139c5001000a61d00000139c5001000a61d000,
     0x00139c5001000a61d00000139c5001000af5780000139c5001000a61d00000139c5001000a61d00000139c5001,
     0x000a61d00000139c5001000b8920000011e15801000c1cc8000011e15801000cb070000012750001000b892000,
     0x0012750001000b8920000012750001000a61d00000139c5001000a61d00000139c5001000af5780000139c5001,
     0x000a61d00000139c5001000c1cc8000011e15801000cb0700000114db001000cb0700000114db001000cb07000,
     0x00114db001000cb070000011e15801000c1cc800000cb0700100114db0000011e15801000cb0700000114db001,
     0x000cb0700000114db001000cb070000011e15801000c1cc8000011e15801000cb0700000114db001000c1cc800,
     0x0011e15801],
    some ⟨⟨36000, false⟩, ⟨39600, true⟩, ⟨10, 1, 0, 7200⟩, ⟨4, 1, 0, 10800⟩⟩⟩,
  ⟨"Australia/Perth", 27804,
    [⟨28800, false⟩, ⟨32400, true⟩],
    [0x0b46857640027a8c7bc10006d6c80002e988400100072b2800000eff1001000eff100003b6898001000a61d000,
     0x0104b4a001000a61d00000e7ddd0010008a6d80001bc1f500100093a80000011e15801000cb0700000114db001,
     0x000cb07000],
    none⟩,
  ⟨"Australia/Sydney", 36292,
    [⟨36000, false⟩, ⟨39600, true⟩],
    [0x0b2d8bfbc002938434410006d6c80002e988400100072b2800000eff1001000eff1000000f92b801000e6b6800,
     0x033e9100010009ce280000142ff801000a61d00000139c5001000a61d00000139c5001000a61d00000139c5001,
     0x000af5780000139c5001000a61d00000139c5001000a61d00000139c5001000a61d00000139c5001000a61d000,
     0x00139c5001000a61d00000139c5001000d44180000114db001000a61d00000139c5001000a61d00000139c5001,
     0x000a61d00000139c5001000b8920000011e15801000c1cc8000012750001000c1cc8000012750001000b892000,
     0x0012750001000a61d00000139c5001000a61d00000139c5001000a61d00000139c5001000af5780000139c5001,
     0x000a61d00000139c5001000a61d00000139c5001000cb0700000114db001000cb0700000114db001000cb07000,
     0x00114db001000cb070000011e15801000c1cc800000cb0700100114db0000011e15801000cb0700000114db001,
     0x000cb0700000114db001000cb070000011e15801000c1cc8000011e15801000cb0700000114db001000c1cc800,
     0x0011e15801],
    some ⟨⟨36000, false⟩, ⟨39600, true⟩, ⟨10, 1, 0, 7200⟩, ⟨4, 1, 0, 10800⟩⟩⟩,
  ⟨"Indian/Chagos", 17380,
    [⟨18000, false⟩, ⟨21600, false⟩],
    [0x0c941381c00a767e6141],
    none⟩,
  ⟨"Indian/Maldives", 17640,
    [⟨18000, false⟩],
    [0x12cf204180],
    none⟩,
  ⟨"Indian/Mauritius", 13800,
    [⟨14400, false⟩, ⟨18000, true⟩],
    [0x0c9414618008e86e7a81000d584f000302824b01000caf8f00],
    none⟩,
  ⟨"Pacific/Apia", 45184,
    [⟨-41216, false⟩, ⟨-41400, false⟩, ⟨-39600, false⟩, ⟨-36000, true⟩, ⟨50400, true⟩, ⟨46800, false⟩],
    [0x0ae0009800022c8330010495c083820723d23783000f804302000e6b68030007fa94040007982405000eff1004,
     0x000f92b805000e6b6804000f92b805000e6b6804000f92b805000e6b6804000f92b805000e6b6804000f92b805,
     0x000e6b6804000f92b805000eff1004000f92b805000e6b6804000f92b805000e6b6804000f92b805],
    none⟩,
  ⟨"Pacific/Auckland", 41944,
    [⟨41400, false⟩, ⟨45000, true⟩, ⟨43200, true⟩, ⟨43200, false⟩, ⟨46800, true⟩],
    [0x081798d28006efd664010009cd4700001275e102000cafff8000114e2082000cafff8000114e2082000cafff80,
     0x00114e2082000d43a7800010ba7882000d43a7800010ba78820010b99780000cb0e08200114d3f80000cb0e082,
     0x00114d3f80000cb0e08200114d3f80000cb0e08200114d3f80000cb0e0820011e0e780000c1d38820011e0e780,
     0x000cb0e082009e31cd830363e63a0400093a800300142ff804000af5780300139c5004000a61d00300139c5004,
     0x000a61d00300139c5004000a61d00300139c5004000a61d00300139c5004000a61d00300139c5004000af57803,
     0x00139c5004000a61d00300139c5004000a61d00300139c5004000a61d00300139c5004000a61d00300139c5004,
     0x000a61d00300139c5004000af5780300139c5004000a61d0030011e15804000d4418030010ba0804000d441803,
     0x0010ba0804000d4418030010ba0804000dd7c0030010266004000dd7c0030010266004000dd7c0030010266004,
     0x000dd7c0030010ba0804000d4418030010ba0804000d4418030010ba0804000dd7c0030010266004000dd7c003,
     0x0010266004000dd7c0030010ba0804000d4418030010ba0804000d4418030010ba0804000dd7c0030010266004,
     0x000dd7c0030010266004000dd7c0030010266004000dd7c0030010266004],
    some ⟨⟨43200, false⟩, ⟨46800, true⟩, ⟨9, 5, 0, 7200⟩, ⟨4, 1, 0, 10800⟩⟩⟩,
  ⟨"Pacific/Bougainville", 37336,
    [⟨35312, false⟩, ⟨36000, false⟩, ⟨32400, false⟩, ⟨39600, false⟩],
    [0x0967892a8001c37526810595591d02005e836901082736a903],
    none⟩,
  ⟨"Pacific/Chatham", 44028,
    [⟨44100, false⟩, ⟨45900, false⟩, ⟨49500, true⟩],
    [0x081798504009123523810363e6724200093a800100142ff802000af5780100139c5002000a61d00100139c5002,
     0x000a61d00100139c5002000a61d00100139c5002000a61d00100139c5002000a61d00100139c5002000af57801,
     0x00139c5002000a61d00100139c5002000a61d00100139c5002000a61d00100139c5002000a61d00100139c5002,
     0x000a61d00100139c5002000af5780100139c5002000a61d0010011e15802000d4418010010ba0802000d441801,
     0x0010ba0802000d4418010010ba0802000dd7c0010010266002000dd7c0010010266002000dd7c0010010266002,
     0x000dd7c0010010ba0802000d4418010010ba0802000d4418010010ba0802000dd7c0010010266002000dd7c001,
     0x0010266002000dd7c0010010ba0802000d4418010010ba0802000d4418010010ba0802000dd7c0010010266002,
     0x000dd7c0010010266002000dd7c0010010266002000dd7c0010010266002],
    some ⟨⟨45900, false⟩, ⟨49500, true⟩, ⟨9, 5, 0, 9900⟩, ⟨4, 1, 0, 13500⟩⟩⟩,
  ⟨"Pacific/Easter", -26248,
    [⟨-25200, false⟩, ⟨-21600, true⟩, ⟨-21600, false⟩, ⟨-18000, true⟩],
    [0x0f9898108004409fbb81000c1be70000139d3101000a60ef000010274101000caf8f0000114e9101000caf8f00,
     0x0011e23901000c1be7000010bae901000d4337000011e23901000c1be7000011e23901000caf8f0000114e9101,
     0x000caf8f0000114e9101000caf8f000011e23901000c1be7000011e23901000c1be7000011e23901000caf8f00,
     0x00114e9101000caf8f0200114e9103000caf8f0200114e9103000caf8f020011e23903000c1be7020011e23903,
     0x000c1be7020011e23903000efe2f02000efff103000caf8f0200114e9103000caf8f020011e23903000c1be702,
     0x000f939903000e6a87020011e23903000caf8f0200114e9103000caf8f0200114e9103000caf8f0200114e9103,
     0x000caf8f020011e23903000c1be7020011e23903000dd6df020010274103000caf8f020010274103000f91d702,
     0x000f939903000caf8f020011e23903000c1be7020011e23903000c1be7020011e23903000c1be7020011e23903,
     0x000caf8f0200114e9103000caf8f0200114e9103000caf8f020011e23903000c1be7020011e23903000dd6df02,
     0x0010274103000caf8f0200114e9103000e6a8702000f93990300114ccf020008a7b9030014c2bf02000a62b103,
     0x00139b6f02000af65903001307c702000af659030032c0df02000780690300167db702000780690300167db702,
     0x000780690300139b6f02000cb1510300114ccf02000cb1510300114ccf02000cb1510300114ccf02000d44f903],
    some ⟨⟨-21600, false⟩, ⟨-18000, true⟩, ⟨9, 1, 6, 79200⟩, ⟨4, 1, 6, 79200⟩⟩⟩,
  ⟨"Pacific/Efate", 40396,
    [⟨39600, false⟩, ⟨43200, true⟩],
    [0x0d2b80334007483d68c10008133000011d82b901000efe2f00000efff101000efe2f00000f939901000e6a8700,
     0x000f939901000efe2f00000efff101000efe2f00000efff101000efe2f00000efff101000efe2f00000efff101,
     0x000efe2f00000f9399010009cd470000167f790100077ea700],
    none⟩,
  ⟨"Pacific/Fakaofo", -41096,
    [⟨-39600, false⟩, ⟨46800, false⟩],
    [0x0bdf9960800d0c644281],
    none⟩,
  ⟨"Pacific/Fiji", 42944,
    [⟨43200, false⟩, ⟨46800, true⟩],
    [0x0d9d5f240009c27662010009ce28000014c3a00100093a800001259508010009ce280000114db001000af57800,
     0x001308a80100077f880000167e980100077f880000171240010006eaff000017a6c90100065838000017a5e801,
     0x000658380000183990010005c4900000183990010005c4900000183990010005c490000018cd3801000530e800,
     0x001c43280100024ea000],
    none⟩,
  ⟨"Pacific/Galapagos", -21504,
    [⟨-18000, false⟩, ⟨-21600, false⟩, ⟨-18000, true⟩],
    [0x0f6668d0000677477d0100cfe469020005ae9701],
    none⟩,
  ⟨"Pacific/Gambier", -32388,
    [⟨-32400, false⟩],
    [0x0d41288840],
    none⟩,
  ⟨"Pacific/Guadalcanal", 38388,
    [⟨39600, false⟩],
    [0x0d411740c0],
    none⟩,
  ⟨"Pacific/Guam", -51660,
    [⟨34740, false⟩, ⟨36000, false⟩, ⟨32400, false⟩, ⟨39600, true⟩],
    [0x054a4064c0069546780104d0168942004f6f410101c0934103002ff3af0100c6407103002a4278c1000c1f6743,
     0x0005c3af0100139d3103000af497010013098903000af497010044a3f9030005c3af010043bbf10300073f62c1,
     0x001430d543000a60ef01],
    none⟩,
  ⟨"Pacific/Honolulu", -37886,
    [⟨-37800, false⟩, ⟨-34200, true⟩, ⟨-36000, false⟩],
    [0x0b4a2b13e004624d28a10001c2e10001067cc701006d80b7000032c2a102],
    none⟩,
  ⟨"Pacific/Kanton", 0,
    [⟨-43200, false⟩, ⟨-39600, false⟩, ⟨46800, false⟩],
    [0x102ef1c00004f292940101caf34f02],
    none⟩,
  ⟨"Pacific/Kiritimati", -37760,
    [⟨-38400, false⟩, ⟨-36000, false⟩, ⟨50400, false⟩],
    [0x0bdf9890000941ea980101caf39a02],
    none⟩,
  ⟨"Pacific/Kosrae", -47284,
    [⟨39116, false⟩, ⟨39600, false⟩, ⟨32400, false⟩, ⟨36000, false⟩, ⟨43200, false⟩],
    [0x054a3f53400695467801019db799c20082864201021b33be03007fcd4902008270490102d750c604037054bf01],
    none⟩,
  ⟨"Pacific/Kwajalein", 40160,
    [⟨39600, false⟩, ⟨36000, false⟩, ⟨32400, false⟩, ⟨-43200, false⟩, ⟨43200, false⟩],
    [0x0bdf858a00043b71db01007fcd49020055c779000303f9960302ceff2f04],
    none⟩,
  ⟨"Pacific/Marquesas", -33480,
    [⟨-34200, false⟩],
    [0x0d4128cc80],
    none⟩,
  ⟨"Pacific/Nauru", 40060,
    [⟨41400, false⟩, ⟨32400, false⟩, ⟨43200, false⟩],
    [0x0e3a96b840028a9bec41005b23e28003ede80f82],
    none⟩,
  ⟨"Pacific/Niue", -40780,
    [⟨-40800, false⟩, ⟨-39600, false⟩],
    [0x11f63aacc0016054e141],
    none⟩,
  ⟨"Pacific/Norfolk", 40312,
    [⟨40320, false⟩, ⟨41400, false⟩, ⟨45000, true⟩, ⟨39600, false⟩, ⟨43200, true⟩],
    [0x0bdf85808005e0be0f8102ccdd1e82000a61d00104c59ff00300788c9884],
    some ⟨⟨39600, false⟩, ⟨43200, true⟩, ⟨10, 1, 0, 7200⟩, ⟨4, 1, 0, 10800⟩⟩⟩,
  ⟨"Pacific/Noumea", 39948,
    [⟨39600, false⟩, ⟨43200, true⟩],
    [0x0d2b804f4007bf0f5dc100070017000016fe09010007152f00021685cb0100077f8800],
    none⟩,
  ⟨"Pacific/Pago_Pago", 45432,
    [⟨-40968, false⟩, ⟨-39600, false⟩],
    [0x0ae0008880022c833001],
    none⟩,
  ⟨"Pacific/Palau", -54124,
    [⟨32276, false⟩, ⟨32400, false⟩],
    [0x054a40fec00695467801],
    none⟩,
  ⟨"Pacific/Pitcairn", -31220,
    [⟨-30600, false⟩, ⟨-28800, false⟩],
    [0x0bdf96f7400b70d13141],
    none⟩,
  ⟨"Pacific/Port_Moresby", 35320,
    [⟨35312, false⟩, ⟨36000, false⟩],
    [0x096789a88001c374a881],
    none⟩,
  ⟨"Pacific/Rarotonga", 48056,
    [⟨-38344, false⟩, ⟨-37800, false⟩, ⟨-34200, true⟩, ⟨-36000, false⟩],
    [0x0bc0f1d48006354840010310aba6020009399f0300139cc082000a615f8300139cc082000a615f8300139cc082,
     0x000af5078300139cc082000a615f8300139cc082000a615f8300139cc082000a615f8300139cc082000a615f83,
     0x00139cc082000a615f8300139cc082000af5078300139cc082000a615f8300139cc082000a615f8300139cc082,
     0x000a615f83],
    none⟩,
  ⟨"Pacific/Tahiti", -35896,
    [⟨-36000, false⟩],
    [0x0d41296380],
    none⟩,
  ⟨"Pacific/Tarawa", 41524,
    [⟨43200, false⟩],
    [0x0bdf8534c0],
    none⟩,
  ⟨"Pacific/Tongatapu", 44352,
    [⟨44400, false⟩, ⟨46800, false⟩, ⟨50400, true⟩],
    [0x11207dcc0001ccc43d01048e967c02000d836001001308a8020006eaff0100171321020006eaff0101bcb3d902,
     0x0005c49001],
    none⟩]

end FeedSieve.Time.Zone
